import Connect3Dp.Runtime.Strings
import Mathlib.Data.List.Induction
import Mathlib.Logic.Relation

/-!
# Paths

The path operations of the runtime on Unix, on the code units of a path: `/` separates, and a path
that starts with it is rooted. `GetFullPath` takes the segments of a rooted path one after another;
an empty segment and `.` do nothing, and `..` drops the segment before it.

A path that is full already grows by a plain segment and stays full (`IsFull.combine`). A hidden
tail, a second separator or a `.`, changes the path and not the full path
(`getFullPath_hiddenTail`). In general, two lists of segments lead to one place when they are
shortened to one another (`SamePlace`), which is decided by what remains of them
(`samePlace_iff`).
-/

namespace Connect3Dp

abbrev Path := List UInt16

namespace Path

/-- `Path.DirectorySeparatorChar`. -/
def separator : UInt16 := 0x2f

def dot : UInt16 := 0x2e

/-- `Path.IsPathRooted`. -/
def isPathRooted (path : Path) : Bool := path.head? == some separator

/-- `Path.EndsInDirectorySeparator`. -/
def endsInSeparator (path : Path) : Bool := path.getLast? == some separator

/-- `Path.Combine`. -/
def combine (first second : Path) : Path :=
  if second = [] then first
  else if first = [] || isPathRooted second then second
  else if endsInSeparator first then first ++ second
  else first ++ separator :: second

/-! ### Full paths -/

/-- The segments of a rooted path. -/
def segments (path : Path) : List Path := (path.drop 1).splitOn separator

/-- One segment, after those that are kept. -/
def push (kept : List Path) (segment : Path) : List Path :=
  if segment = [] ∨ segment = [dot] then kept
  else if segment = [dot, dot] then kept.tail
  else segment :: kept

/-- What remains of a list of segments. -/
def resolve (l : List Path) : List Path := (l.foldl push []).reverse

/-- The names from the root down to where a rooted path leads. -/
def nodes (path : Path) : List Path := resolve (segments path)

def render (l : List Path) : Path := l.flatMap (separator :: ·)

/-- `PathInternal.RemoveRelativeSegments`, of a rooted path. A separator at the end stays. -/
def removeRelativeSegments (path : Path) : Path :=
  let kept := resolve (segments path)
  if kept = [] then [separator]
  else render kept ++ if (segments path).getLast? = some [] then [separator] else []

/-- `Path.GetFullPath`, of a rooted path. -/
def getFullPath (path : Path) : Except Fault Path :=
  if 0 ∈ path then .error .argument else .ok (removeRelativeSegments path)

/-- The segments of a full path, without the empty one after a separator at its end. -/
def names (path : Path) : List Path := (segments path).filter (· ≠ [])

def dropCommon : List Path → List Path → List Path × List Path
  | a :: as, b :: bs => if a = b then dropCommon as bs else (a :: as, b :: bs)
  | as, bs => (as, bs)

/-- `Path.GetRelativePath`, of two full paths. -/
def getRelativePath (relativeTo path : Path) : Path :=
  if names relativeTo = names path then [dot]
  else
    let (up, down) := dropCommon (names relativeTo) (names path)
    [separator].intercalate (up.map (fun _ => [dot, dot]) ++ down) ++
      if endsInSeparator path ∧ down ≠ [] then [separator] else []

/-! ### Growing a full path -/

/-- A segment that is a name and not a step. -/
structure Plain (segment : Path) : Prop where
  ne_nil : segment ≠ []
  ne_dot : segment ≠ [dot]
  ne_dots : segment ≠ [dot, dot]
  separator_notMem : separator ∉ segment

/-- A rooted path that is its own full path. -/
structure IsFull (path : Path) : Prop where
  rooted : isPathRooted path = true
  full : removeRelativeSegments path = path

theorem isPathRooted_eq_true_iff {path : Path} :
    isPathRooted path = true ↔ ∃ rest, path = separator :: rest := by
  cases path with
  | nil => simp [isPathRooted]
  | cons c rest => simp [isPathRooted]

theorem endsInSeparator_eq_true_iff {path : Path} :
    endsInSeparator path = true ↔ ∃ rest, path = rest ++ [separator] := by
  rw [endsInSeparator, beq_iff_eq, List.getLast?_eq_some_iff]

theorem Plain.isPathRooted_eq {segment : Path} (h : Plain segment) :
    isPathRooted segment = false := by
  rw [← Bool.not_eq_true, isPathRooted_eq_true_iff]
  rintro ⟨rest, rfl⟩
  exact h.separator_notMem List.mem_cons_self

theorem Plain.endsInSeparator_eq {segment : Path} (h : Plain segment) (path : Path) :
    endsInSeparator (path ++ segment) = false := by
  rw [← Bool.not_eq_true, endsInSeparator, beq_iff_eq, List.getLast?_append]
  obtain ⟨c, hc⟩ := Option.ne_none_iff_exists'.mp (List.getLast?_eq_none_iff.not.mpr h.ne_nil)
  rw [hc, Option.some_or]
  rintro ⟨rfl⟩
  exact h.separator_notMem (List.mem_of_getLast? hc)

/-- What a path is continued with. -/
def asDirectory (path : Path) : Path :=
  if endsInSeparator path then path else path ++ [separator]

theorem combine_eq {path second : Path} (hpath : path ≠ []) (hsecond : second ≠ [])
    (hrel : isPathRooted second = false) :
    combine path second = asDirectory path ++ second := by
  rw [combine, if_neg hsecond, if_neg (by simp [hpath, hrel]), asDirectory]
  split <;> simp

theorem IsFull.ne_nil {path : Path} (h : IsFull path) : path ≠ [] := by
  rintro rfl
  cases h.rooted

theorem Plain.combine_ne_nil {segment : Path} (h : Plain segment) (path : Path) :
    combine path segment ≠ [] := by
  unfold combine
  rw [if_neg h.ne_nil]
  split
  · exact h.ne_nil
  · split <;> simp [h.ne_nil]

theorem Plain.combine_eq {path segment : Path} (hpath : path ≠ []) (h : Plain segment) :
    combine path segment = asDirectory path ++ segment :=
  Path.combine_eq hpath h.ne_nil h.isPathRooted_eq

theorem Plain.asDirectory_combine {path segment : Path} (hpath : path ≠ []) (h : Plain segment) :
    asDirectory (combine path segment) = combine path segment ++ [separator] := by
  rw [h.combine_eq hpath, asDirectory, h.endsInSeparator_eq]
  rfl

theorem segments_append {path : Path} (hpath : path ≠ []) (rest : Path) :
    segments (path ++ separator :: rest) = segments path ++ rest.splitOn separator := by
  obtain ⟨c, path, rfl⟩ := List.exists_cons_of_ne_nil hpath
  simp [segments, List.splitOn_append_cons_self]

theorem Plain.splitOn_eq {segment : Path} (h : Plain segment) :
    segment.splitOn separator = [segment] :=
  List.splitOn_eq_singleton h.separator_notMem

/-- What stands before the first separator, and what stands behind it. -/
theorem append_separator_inj {a b : Path} {rest rest' : Path} (ha : separator ∉ a)
    (hb : separator ∉ b) (h : a ++ separator :: rest = b ++ separator :: rest') :
    a = b ∧ rest = rest' := by
  have hsplit := congrArg (List.splitOn separator) h
  rw [List.splitOn_append_cons_self_of_not_mem ha, List.splitOn_append_cons_self_of_not_mem hb]
    at hsplit
  obtain rfl := (List.cons.inj hsplit).1
  exact ⟨rfl, (List.cons.inj (List.append_cancel_left h)).2⟩

/-- A segment that is a step down. -/
structure IsName (segment : Path) : Prop where
  ne_nil : segment ≠ []
  ne_dot : segment ≠ [dot]
  ne_dots : segment ≠ [dot, dot]

instance (segment : Path) : Decidable (IsName segment) :=
  decidable_of_iff (segment ≠ [] ∧ segment ≠ [dot] ∧ segment ≠ [dot, dot])
    ⟨fun h => ⟨h.1, h.2.1, h.2.2⟩, fun h => ⟨h.ne_nil, h.ne_dot, h.ne_dots⟩⟩

theorem Plain.isName {segment : Path} (h : Plain segment) : IsName segment :=
  ⟨h.ne_nil, h.ne_dot, h.ne_dots⟩

theorem IsName.push_eq {segment : Path} (h : IsName segment) (kept : List Path) :
    push kept segment = segment :: kept := by
  rw [push, if_neg (by simp [h.ne_nil, h.ne_dot]), if_neg h.ne_dots]

theorem resolve_append_name {segment : Path} (h : IsName segment) (l : List Path) :
    resolve (l ++ [segment]) = resolve l ++ [segment] := by
  simp [resolve, h.push_eq]

theorem resolve_append_plain {segment : Path} (h : Plain segment) (l : List Path) :
    resolve (l ++ [segment]) = resolve l ++ [segment] :=
  resolve_append_name h.isName l

theorem resolve_append_nil (l : List Path) : resolve (l ++ [[]]) = resolve l := by
  simp [resolve, push]

theorem resolve_append_dot (l : List Path) : resolve (l ++ [[dot]]) = resolve l := by
  simp [resolve, push]

/-- A separator at the end of a path starts no segment that is kept. -/
theorem exists_segments_asDirectory {path : Path} (hpath : path ≠ []) :
    ∃ l, (∀ rest, segments (asDirectory path ++ rest) = l ++ rest.splitOn separator) ∧
      resolve l = resolve (segments path) := by
  by_cases hends : endsInSeparator path = true
  · have hdir : asDirectory path = path := if_pos hends
    obtain ⟨start, rfl⟩ := endsInSeparator_eq_true_iff.mp hends
    by_cases hstart : start = []
    · subst hstart
      exact ⟨[], fun rest => by rw [hdir]; rfl, rfl⟩
    · refine ⟨segments start, fun rest => ?_, ?_⟩
      · rw [hdir, List.append_assoc, List.singleton_append, segments_append hstart]
      · rw [segments_append hstart, List.splitOn_nil, resolve_append_nil]
  · have hdir : asDirectory path = path ++ [separator] := if_neg hends
    refine ⟨segments path, fun rest => ?_, rfl⟩
    rw [hdir, List.append_assoc, List.singleton_append, segments_append hpath]

theorem intercalate_append_nil (c : UInt16) {l : List Path} (hl : l ≠ []) :
    [c].intercalate (l ++ [[]]) = [c].intercalate l ++ [c] := by
  induction l with
  | nil => exact absurd rfl hl
  | cons s l ih =>
    by_cases h : l = []
    · subst h
      simp
    · rw [List.cons_append, List.intercalate_cons_of_ne_nil (by simp), ih h,
        List.intercalate_cons_of_ne_nil h]
      simp

/-- The last segment of a rooted path is empty just when a separator ends the path. -/
theorem getLast?_segments_iff {path : Path} (hroot : isPathRooted path = true) :
    (segments path).getLast? = some [] ↔ endsInSeparator path = true := by
  constructor
  · intro hlast
    obtain ⟨rest, rfl⟩ := isPathRooted_eq_true_iff.mp hroot
    obtain ⟨l, hl⟩ := List.getLast?_eq_some_iff.mp hlast
    have hrest : [separator].intercalate (l ++ [[]]) = rest := by
      rw [← hl]
      exact List.intercalate_splitOn separator
    rw [endsInSeparator_eq_true_iff]
    by_cases hnil : l = []
    · subst hnil
      exact ⟨[], by rw [← hrest]; rfl⟩
    · exact ⟨separator :: [separator].intercalate l, by
        rw [← hrest, intercalate_append_nil separator hnil]; rfl⟩
  · intro hends
    obtain ⟨start, rfl⟩ := endsInSeparator_eq_true_iff.mp hends
    by_cases hstart : start = []
    · subst hstart
      rfl
    · rw [segments_append hstart, List.splitOn_nil, List.getLast?_concat]

/-- The directory of a full path, by its segments. -/
theorem IsFull.asDirectory_eq {path : Path} (h : IsFull path) :
    asDirectory path = render (resolve (segments path)) ++ [separator] := by
  have hfull := h.full
  by_cases hkept : resolve (segments path) = []
  · have hroot : path = [separator] := by
      rw [← hfull, removeRelativeSegments, if_pos hkept]
    rw [hkept, hroot]
    rfl
  · rw [removeRelativeSegments, if_neg hkept] at hfull
    rw [asDirectory]
    split
    · rename_i hends
      rw [if_pos ((getLast?_segments_iff h.rooted).mpr hends)] at hfull
      exact hfull.symm
    · rename_i hends
      rw [if_neg ((getLast?_segments_iff h.rooted).not.mpr hends), List.append_nil] at hfull
      rw [hfull]

/-- **A full path is continued by a plain segment.** -/
theorem IsFull.combine {path segment : Path} (h : IsFull path) (hsegment : Plain segment) :
    IsFull (combine path segment) := by
  obtain ⟨l, hl, hresolve⟩ := exists_segments_asDirectory h.ne_nil
  have hcombine := hsegment.combine_eq h.ne_nil
  have hsegments : segments (Path.combine path segment) = l ++ [segment] := by
    rw [hcombine, hl, hsegment.splitOn_eq]
  have hkept : resolve (segments (Path.combine path segment)) =
      resolve (segments path) ++ [segment] := by
    rw [hsegments, resolve_append_plain hsegment, hresolve]
  refine ⟨?_, ?_⟩
  · obtain ⟨rest, hrest⟩ := isPathRooted_eq_true_iff.mp h.rooted
    rw [isPathRooted_eq_true_iff, hcombine, asDirectory, hrest]
    split
    · exact ⟨_, rfl⟩
    · exact ⟨_, rfl⟩
  · rw [removeRelativeSegments, hkept, if_neg (by simp), hsegments, List.getLast?_concat,
      if_neg (by simpa using hsegment.ne_nil), List.append_nil, hcombine, h.asDirectory_eq]
    simp [render]

/-! ### Places -/

/-- A path is continued by one segment as `GetFullPath` takes it. -/
theorem nodes_combine {path segment : Path} (hpath : path ≠ []) (hne : segment ≠ [])
    (hseparator : separator ∉ segment) :
    nodes (combine path segment) = (push (nodes path).reverse segment).reverse := by
  have hrooted : isPathRooted segment = false := by
    rw [← Bool.not_eq_true, isPathRooted_eq_true_iff]
    rintro ⟨rest, rfl⟩
    exact hseparator List.mem_cons_self
  obtain ⟨l, hl, hresolve⟩ := exists_segments_asDirectory hpath
  have hsplit : segment.splitOn separator = [segment] := List.splitOn_eq_singleton hseparator
  have hkept : (nodes path).reverse = l.foldl push [] := by
    rw [nodes, ← hresolve, resolve, List.reverse_reverse]
  rw [combine_eq hpath hne hrooted, hkept, nodes, hl, hsplit, resolve, List.foldl_append]
  rfl

theorem nodes_combine_plain {path segment : Path} (hpath : path ≠ []) (h : Plain segment) :
    nodes (combine path segment) = nodes path ++ [segment] := by
  rw [nodes_combine hpath h.ne_nil h.separator_notMem, push,
    if_neg (by simp [h.ne_nil, h.ne_dot]), if_neg h.ne_dots]
  simp

theorem nodes_combine_dot {path : Path} (hpath : path ≠ []) :
    nodes (combine path [dot]) = nodes path := by
  rw [nodes_combine hpath (by decide) (by decide)]
  simp [push]

theorem nodes_combine_dots {path : Path} (hpath : path ≠ []) :
    nodes (combine path [dot, dot]) = (nodes path).dropLast := by
  rw [nodes_combine hpath (by decide) (by decide)]
  simp [push, List.tail_reverse]

/-- Segments lead where they led without one that does nothing, without a name and the step up
behind it, and without a step up from the root. -/
inductive Shortens : List Path → List Path → Prop
  | empty (l r : List Path) : Shortens (l ++ [] :: r) (l ++ r)
  | dot (l r : List Path) : Shortens (l ++ [dot] :: r) (l ++ r)
  | up {name : Path} (h : IsName name) (l r : List Path) :
    Shortens (l ++ name :: [dot, dot] :: r) (l ++ r)
  | root (r : List Path) : Shortens ([dot, dot] :: r) r

/-- Two lists of segments lead to one place. -/
def SamePlace : List Path → List Path → Prop := Relation.EqvGen Shortens

theorem Shortens.resolve_eq {l l' : List Path} (h : Shortens l l') : resolve l = resolve l' := by
  cases h with
  | empty l r => simp [resolve, push]
  | dot l r => simp [resolve, push]
  | up hname l r =>
    simp only [resolve, List.foldl_append, List.foldl_cons, hname.push_eq]
    simp [push]
  | root r => simp [resolve, push]

theorem Shortens.append {l l' : List Path} (h : Shortens l l') (rest : List Path) :
    Shortens (l ++ rest) (l' ++ rest) := by
  cases h with
  | empty l r => simpa using empty l (r ++ rest)
  | dot l r => simpa using dot l (r ++ rest)
  | up hname l r => simpa using up hname l (r ++ rest)
  | root => exact root _

theorem SamePlace.append {l l' : List Path} (h : SamePlace l l') (rest : List Path) :
    SamePlace (l ++ rest) (l' ++ rest) := by
  induction h with
  | rel l l' h => exact .rel _ _ (h.append rest)
  | refl l => exact .refl _
  | symm l l' _ ih => exact .symm _ _ ih
  | trans l l' l'' _ _ ih ih' => exact .trans _ _ _ ih ih'

/-- What remains of the segments leads where they lead. -/
theorem samePlace_resolve (l : List Path) :
    SamePlace l (resolve l) ∧ ∀ name ∈ resolve l, IsName name := by
  induction l using List.reverseRecOn with
  | nil => exact ⟨.refl _, nofun⟩
  | append_singleton l segment ih =>
    obtain ⟨hsame, hnames⟩ := ih
    have hstep : SamePlace (l ++ [segment]) (resolve l ++ [segment]) := hsame.append [segment]
    by_cases hnil : segment = []
    · subst hnil
      rw [resolve_append_nil]
      exact ⟨.trans _ _ _ hstep (.rel _ _ (by simpa using Shortens.empty (resolve l) [])), hnames⟩
    by_cases hdot : segment = [dot]
    · subst hdot
      rw [resolve_append_dot]
      exact ⟨.trans _ _ _ hstep (.rel _ _ (by simpa using Shortens.dot (resolve l) [])), hnames⟩
    by_cases hdots : segment = [dot, dot]
    · subst hdots
      have hup : resolve (l ++ [[dot, dot]]) = (resolve l).dropLast := by
        simp [resolve, push]
      rw [hup]
      refine ⟨.trans _ _ _ hstep (.rel _ _ ?_),
        fun name h => hnames name (List.dropLast_subset _ h)⟩
      cases hkept : resolve l using List.reverseRecOn with
      | nil => exact .root []
      | append_singleton kept name =>
        have hname := hnames name (by simp [hkept])
        simpa using Shortens.up hname kept []
    · have hname : IsName segment := ⟨hnil, hdot, hdots⟩
      rw [resolve_append_name hname]
      refine ⟨hstep, fun name h => ?_⟩
      obtain h | h := List.mem_append.mp h
      · exact hnames name h
      · exact List.mem_singleton.mp h ▸ hname

/-- **Segments lead to one place** just when the same remains of them. -/
theorem samePlace_iff {l l' : List Path} : SamePlace l l' ↔ resolve l = resolve l' := by
  constructor
  · intro h
    induction h with
    | rel l l' h => exact h.resolve_eq
    | refl l => rfl
    | symm l l' _ ih => exact ih.symm
    | trans l l' l'' _ _ ih ih' => exact ih.trans ih'
  · intro h
    exact .trans _ _ _ (samePlace_resolve l).1 (.symm _ _ (h ▸ (samePlace_resolve l').1))

theorem resolve_append_names {names : List Path} (h : ∀ name ∈ names, IsName name)
    (l : List Path) : resolve (l ++ names) = resolve l ++ names := by
  induction names using List.reverseRecOn with
  | nil => rw [List.append_nil, List.append_nil]
  | append_singleton names name ih =>
    rw [← List.append_assoc, resolve_append_name (h name (by simp)),
      ih fun name hname => h name (List.mem_append_left _ hname), List.append_assoc]

/-! ### What `GetFullPath` returns is full -/

theorem separator_notMem_of_mem_splitOn {path segment : Path}
    (h : segment ∈ path.splitOn separator) : separator ∉ segment := by
  induction path generalizing segment with
  | nil =>
    rw [List.splitOn_nil, List.mem_singleton] at h
    subst h
    exact List.not_mem_nil
  | cons c path ih =>
    rw [List.splitOn_cons_eq_if_modifyHead] at h
    split at h
    · rcases List.mem_cons.mp h with rfl | h
      · exact List.not_mem_nil
      · exact ih h
    · rename_i hc
      obtain ⟨first, rest, hsplit⟩ :=
        List.exists_cons_of_ne_nil (List.splitOn_ne_nil separator path)
      rw [hsplit, List.modifyHead_cons] at h
      rcases List.mem_cons.mp h with rfl | h
      · have hfirst : separator ∉ first := ih (hsplit ▸ List.mem_cons_self)
        have hne : c ≠ separator := by simpa using hc
        exact fun hmem => (List.mem_cons.mp hmem).elim (fun heq => hne heq.symm) hfirst
      · exact ih (hsplit ▸ List.mem_cons_of_mem first h)

/-- Every segment that is kept is a name. -/
theorem plain_of_mem_resolve {l : List Path} (hl : ∀ segment ∈ l, separator ∉ segment)
    {segment : Path} (h : segment ∈ resolve l) : Plain segment := by
  induction l using List.reverseRecOn generalizing segment with
  | nil => cases h
  | append_singleton l last ih =>
    have ih' : ∀ kept ∈ resolve l, Plain kept := fun kept hkept =>
      ih (fun s hs => hl s (List.mem_append_left _ hs)) hkept
    have hstep : resolve (l ++ [last]) = (push (l.foldl push []) last).reverse := by
      simp [resolve]
    rw [hstep, List.mem_reverse, push] at h
    split at h
    · exact ih' segment (List.mem_reverse.mpr h)
    · rename_i hstay
      split at h
      · exact ih' segment (List.mem_reverse.mpr (List.mem_of_mem_tail h))
      · rename_i hdots
        obtain ⟨hnil, hdot⟩ := not_or.mp hstay
        rcases List.mem_cons.mp h with rfl | h
        · exact ⟨hnil, hdot, hdots, hl segment (by simp)⟩
        · exact ih' segment (List.mem_reverse.mpr h)

theorem isFull_separator : IsFull [separator] := ⟨rfl, rfl⟩

theorem isFull_render {l : List Path} (hne : l ≠ []) (hl : ∀ segment ∈ l, Plain segment) :
    IsFull (render l) ∧ endsInSeparator (render l) = false := by
  induction l using List.reverseRecOn with
  | nil => exact absurd rfl hne
  | append_singleton l last ih =>
    have hlast : Plain last := hl last (by simp)
    have hrender : render (l ++ [last]) = render l ++ separator :: last := by simp [render]
    have hends : endsInSeparator (render (l ++ [last])) = false := by
      have hshift : render (l ++ [last]) = (render l ++ [separator]) ++ last := by simp [render]
      rw [hshift]
      exact hlast.endsInSeparator_eq _
    refine ⟨?_, hends⟩
    by_cases hnil : l = []
    · subst hnil
      have hroot := isFull_separator.combine hlast
      rw [hlast.combine_eq (by simp)] at hroot
      rw [hrender]
      exact hroot
    · obtain ⟨hfull, hopen⟩ := ih hnil fun s hs => hl s (List.mem_append_left _ hs)
      have hnext := hfull.combine hlast
      rw [hlast.combine_eq hfull.ne_nil, asDirectory, hopen] at hnext
      rw [hrender]
      simpa using hnext

theorem IsFull.append_separator {path : Path} (h : IsFull path)
    (hends : endsInSeparator path = false) : IsFull (path ++ [separator]) := by
  have hne := h.ne_nil
  have hdir : asDirectory path = path ++ [separator] := if_neg (by simp [hends])
  have hkept : resolve (segments path) ≠ [] := by
    intro hkept
    have hroot := h.asDirectory_eq
    rw [hkept, hdir] at hroot
    exact hne (List.append_cancel_right (hroot : path ++ [separator] = [] ++ [separator]))
  refine ⟨?_, ?_⟩
  · obtain ⟨rest, rfl⟩ := isPathRooted_eq_true_iff.mp h.rooted
    rfl
  · rw [removeRelativeSegments, segments_append hne, List.splitOn_nil, resolve_append_nil,
      List.getLast?_concat, if_neg hkept, if_pos rfl, ← h.asDirectory_eq, hdir]

theorem isFull_removeRelativeSegments (path : Path) : IsFull (removeRelativeSegments path) := by
  unfold removeRelativeSegments
  by_cases hkept : resolve (segments path) = []
  · rw [hkept]
    exact isFull_separator
  · have hplain : ∀ segment ∈ resolve (segments path), Plain segment := fun segment =>
      plain_of_mem_resolve fun s hs => separator_notMem_of_mem_splitOn hs
    obtain ⟨hfull, hends⟩ := isFull_render hkept hplain
    simp only [if_neg hkept]
    split
    · exact hfull.append_separator hends
    · rwa [List.append_nil]

theorem isFull_of_getFullPath {path full : Path} (h : getFullPath path = .ok full) :
    IsFull full := by
  unfold getFullPath at h
  split at h
  · cases h
  · cases h
    exact isFull_removeRelativeSegments path

/-! ### Where a full path leads -/

theorem segments_render {l : List Path} (hne : l ≠ []) (hl : ∀ segment ∈ l, separator ∉ segment) :
    segments (render l) = l := by
  induction l with
  | nil => exact absurd rfl hne
  | cons segment l ih =>
    obtain ⟨hsegment, hl⟩ := List.forall_mem_cons.mp hl
    have hrender : segments (render (segment :: l)) = (segment ++ render l).splitOn separator := rfl
    cases l with
    | nil =>
      rw [hrender]
      change (segment ++ []).splitOn separator = _
      rw [List.append_nil, List.splitOn_eq_singleton hsegment]
    | cons next l =>
      have hnext : segments (render (next :: l)) = (next ++ render l).splitOn separator := rfl
      rw [hrender]
      change (segment ++ separator :: (next ++ render l)).splitOn separator = _
      rw [List.splitOn_append_cons_self_of_not_mem hsegment, ← hnext, ih (by simp) hl]

/-- **A path leads where its full path leads.** -/
theorem nodes_removeRelativeSegments (path : Path) :
    nodes (removeRelativeSegments path) = nodes path := by
  have hplain : ∀ segment ∈ nodes path, Plain segment := fun segment =>
    plain_of_mem_resolve fun s hs => separator_notMem_of_mem_splitOn hs
  unfold removeRelativeSegments
  by_cases hkept : resolve (segments path) = []
  · rw [if_pos hkept, nodes, nodes, hkept]
    rfl
  · have hsegments : segments (render (resolve (segments path))) = resolve (segments path) :=
      segments_render hkept fun s hs => (hplain s hs).separator_notMem
    have hresolve : resolve (resolve (segments path)) = resolve (segments path) :=
      resolve_append_names (fun s hs => (hplain s hs).isName) []
    simp only [if_neg hkept]
    split
    · rw [nodes, segments_append (isFull_render hkept hplain).1.ne_nil, List.splitOn_nil,
        resolve_append_nil, hsegments, hresolve, nodes]
    · rw [List.append_nil, nodes, hsegments, hresolve, nodes]

/-- Two paths have one full path just when they lead to one place, and there, unless it is the root,
both or neither ends in a separator. -/
theorem removeRelativeSegments_eq_iff {path path' : Path} (hroot : isPathRooted path = true)
    (hroot' : isPathRooted path' = true) :
    removeRelativeSegments path = removeRelativeSegments path' ↔
      nodes path = nodes path' ∧
        (nodes path = [] ∨ endsInSeparator path = endsInSeparator path') := by
  have hends {path : Path} (hroot : isPathRooted path = true) (hkept : nodes path ≠ []) :
      removeRelativeSegments path =
        render (nodes path) ++ if endsInSeparator path then [separator] else [] := by
    simp only [removeRelativeSegments, nodes] at hkept ⊢
    rw [if_neg hkept]
    simp only [getLast?_segments_iff hroot]
  constructor
  · intro h
    have hnodes : nodes path = nodes path' := by
      rw [← nodes_removeRelativeSegments, h, nodes_removeRelativeSegments]
    refine ⟨hnodes, or_iff_not_imp_left.mpr fun hkept => ?_⟩
    rw [hends hroot hkept, hends hroot' (hnodes ▸ hkept), hnodes] at h
    have htail := List.append_cancel_left h
    cases hpath : endsInSeparator path <;> cases hpath' : endsInSeparator path' <;>
      simp [hpath, hpath'] at htail ⊢
  · rintro ⟨hnodes, hend⟩
    by_cases hkept : nodes path = []
    · have hempty {path : Path} (h : nodes path = []) :
          removeRelativeSegments path = [separator] := if_pos h
      rw [hempty hkept, hempty (hnodes ▸ hkept)]
    · rw [hends hroot hkept, hends hroot' (hnodes ▸ hkept), hnodes, hend.resolve_left hkept]

/-! ### Hidden tails -/

/-- What can be put behind a path without changing its full path. -/
def hiddenTail (path : Path) : Path :=
  if endsInSeparator path then [separator] else [separator, dot]

theorem getFullPath_hiddenTail {path : Path} (hroot : isPathRooted path = true) :
    getFullPath (path ++ hiddenTail path) = getFullPath path := by
  have hne : path ≠ [] := by
    rintro rfl
    cases hroot
  have hnul : 0 ∈ path ++ hiddenTail path ↔ 0 ∈ path := by
    rw [List.mem_append, hiddenTail]
    split <;> simp [separator, dot]
  suffices h : removeRelativeSegments (path ++ hiddenTail path) = removeRelativeSegments path by
    simp only [getFullPath, hnul, h]
  unfold hiddenTail
  split
  · rename_i hends
    have hlast := (getLast?_segments_iff hroot).mpr hends
    rw [removeRelativeSegments, segments_append hne, List.splitOn_nil, resolve_append_nil,
      List.getLast?_concat, removeRelativeSegments, hlast]
  · rename_i hends
    have hlast := (getLast?_segments_iff hroot).not.mpr hends
    have hdot : [dot].splitOn separator = [[dot]] := by decide
    have hlast' : ¬ some [dot] = some ([] : Path) := by decide
    rw [removeRelativeSegments, segments_append hne, hdot, resolve_append_dot,
      List.getLast?_concat, removeRelativeSegments, if_neg hlast, if_neg hlast']

theorem combine_append {first second : Path} (hsecond : second ≠ []) (rest : Path) :
    combine first (second ++ rest) = combine first second ++ rest := by
  have hne : second ++ rest ≠ [] := by simp [hsecond]
  have hrooted : isPathRooted (second ++ rest) = isPathRooted second := by
    obtain ⟨c, second, rfl⟩ := List.exists_cons_of_ne_nil hsecond
    rfl
  rw [combine, combine, if_neg hne, if_neg hsecond, hrooted]
  split
  · rfl
  · split <;> simp

theorem isPathRooted_combine {first : Path} (h : isPathRooted first = true) (second : Path) :
    isPathRooted (combine first second) = true := by
  obtain ⟨rest, rfl⟩ := isPathRooted_eq_true_iff.mp h
  unfold combine
  split
  · exact h
  · split
    · rename_i hdrop
      simpa using hdrop
    · split <;> rfl

end Path

/-- The place is in the directory, or in one below it. -/
def IsBelow (directory fullName : List Path) : Prop := directory <+: fullName ∧ directory ≠ fullName

instance (directory fullName : List Path) : Decidable (IsBelow directory fullName) :=
  inferInstanceAs (Decidable (_ ∧ _))

theorem IsBelow.of_prefix {directory below fullName : List Path} (h : IsBelow below fullName)
    (hbelow : directory <+: below) : IsBelow directory fullName := by
  refine ⟨hbelow.trans h.1, ?_⟩
  rintro rfl
  exact h.2 (h.1.eq_of_length_le hbelow.length_le)

theorem isBelow_iff {directory fullName : List Path} :
    IsBelow directory fullName ↔ ∃ rest, rest ≠ [] ∧ fullName = directory ++ rest := by
  constructor
  · rintro ⟨⟨rest, rfl⟩, hne⟩
    exact ⟨rest, fun hnil => hne (by rw [hnil, List.append_nil]), rfl⟩
  · rintro ⟨rest, hrest, rfl⟩
    exact ⟨List.prefix_append .., fun heq => hrest (List.self_eq_append_right.mp heq)⟩

end Connect3Dp
