import Connect3Dp.Relays.CameraCleanup
import Mathlib.Data.List.Forall2

/-!
# The names of the paths of machines

At the relay the paths of all machines have one name space, and `MakePathName` makes a machine's
names of its ID. It writes an underscore for what it does not take over, so that different IDs may
get the same name, and an ID may end as the names of another machine do.

`disjoint_registers_iff` says of which machines the names are different ones, and
`requested_mem_registers` that the coordinator asks for no others.
-/

namespace Connect3Dp

/-! ### Names -/

/-- The paths that `SetupAsync` registers. -/
def CameraSource.paths : CameraSource → List CameraPath
  | noCamera => []
  | pull .. => [.pull]
  | publisher _ _ none _ => [.full]
  | publisher _ _ (some _) _ => [.full, .glance]

theorem CameraSource.full_mem_paths (full : StreamPublisherOptions) (fullSpec : CameraSpec)
    (glance : Option StreamPublisherOptions) (glanceSpec : Option CameraSpec) :
    .full ∈ (publisher full fullSpec glance glanceSpec).paths := by
  cases glance with
  | none => exact List.mem_cons_self
  | some glance => exact List.mem_cons_self

/-- Their names. -/
def CameraSite.registers (site : CameraSite) (source : CameraSource) : List String :=
  source.paths.map site.pathName

/-- The `char`s of an ID. Those of a character outside the basic plane are `none`. -/
def idChars (id : String) : List (Option Char) :=
  id.toList.flatMap fun ch => if 0xffff < ch.toNat then [none, none] else [some ch]

section LookAlike

variable (isLetterOrDigit : Char → Bool)

/-- The `char` in a name tells which one it was in the ID. -/
def IsTelling : Option Char → Prop
  | some ch => isLetterOrDigit ch = true ∨ ch = '-'
  | none => False

/-- They are equal, or neither of them is telling. -/
def CharsLookAlike (u v : Option Char) : Prop :=
  u = v ∨ ¬ IsTelling isLetterOrDigit u ∧ ¬ IsTelling isLetterOrDigit v

/-- The IDs are of the same length and look alike at each position. -/
def LookAlike (id id' : String) : Prop :=
  List.Forall₂ (CharsLookAlike isLetterOrDigit) (idChars id) (idChars id')

/-- A path of a machine is named as a path of another. -/
def PathsCollide (id : String) (path : CameraPath) (id' : String) (path' : CameraPath) : Prop :=
  match path, path' with
  | .pull, .pull | .full, .full | .glance, .glance => LookAlike isLetterOrDigit id id'
  | .pull, .full => LookAlike isLetterOrDigit id (id' ++ "_full")
  | .pull, .glance => LookAlike isLetterOrDigit id (id' ++ "_glance")
  | .full, .pull => LookAlike isLetterOrDigit (id ++ "_full") id'
  | .glance, .pull => LookAlike isLetterOrDigit (id ++ "_glance") id'
  | .full, .glance | .glance, .full => False

/-- One of the machines has a path that is named as one of the other. -/
def Collides (id : String) (source : CameraSource) (id' : String) (source' : CameraSource) : Prop :=
  match source, source' with
  | .noCamera, _ | _, .noCamera => False
  | .pull .., .pull .. | .publisher .., .publisher .. => LookAlike isLetterOrDigit id id'
  | .pull .., .publisher _ _ glance _ =>
    LookAlike isLetterOrDigit id (id' ++ "_full") ∨
      glance.isSome = true ∧ LookAlike isLetterOrDigit id (id' ++ "_glance")
  | .publisher _ _ glance _, .pull .. =>
    LookAlike isLetterOrDigit (id ++ "_full") id' ∨
      glance.isSome = true ∧ LookAlike isLetterOrDigit (id ++ "_glance") id'

instance : DecidablePred (IsTelling isLetterOrDigit)
  | some _ => inferInstanceAs (Decidable (_ ∨ _))
  | none => inferInstanceAs (Decidable False)

instance (u v : Option Char) : Decidable (CharsLookAlike isLetterOrDigit u v) :=
  inferInstanceAs (Decidable (_ ∨ _))

instance (id id' : String) : Decidable (LookAlike isLetterOrDigit id id') :=
  inferInstanceAs (Decidable (List.Forall₂ _ _ _))

end LookAlike

/-- The same for another machine. -/
def CameraSite.ofMachine (site : CameraSite) (machineID : String) : CameraSite :=
  { site with machineID }

/-- Of ASCII, the letters and the digits are such. -/
def CameraSite.ReadsAscii (site : CameraSite) : Prop :=
  ∀ ch : Char, ch.toNat < 0x80 → site.isLetterOrDigit ch = ch.isAlphanum

namespace CameraSite

variable {site : CameraSite}

/-- What `MakePathName` writes for a `char`. -/
def shown (site : CameraSite) : Option Char → Char
  | some ch => if site.isLetterOrDigit ch || ch = '_' || ch = '-' then ch else '_'
  | none => '_'

theorem makePathName_eq (site : CameraSite) :
    site.makePathName = .ofList ((idChars site.machineID).map site.shown) := by
  rw [makePathName, idChars, List.map_flatMap]
  refine congrArg String.ofList (List.flatMap_congr fun ch _ => ?_)
  split
  · rfl
  · exact (apply_ite (fun ch => [ch]) _ _ _).symm

theorem shown_of_isTelling {u : Option Char} (h : IsTelling site.isLetterOrDigit u) :
    u = some (site.shown u) := by
  cases u with
  | none => exact absurd h id
  | some ch =>
    have hkept : (site.isLetterOrDigit ch || ch = '_' || ch = '-') = true := by
      obtain h | rfl := h
      · rw [h, Bool.true_or, Bool.true_or]
      · exact Bool.or_true _
    rw [shown, if_pos hkept]

theorem shown_of_not_isTelling {u : Option Char} (h : ¬ IsTelling site.isLetterOrDigit u) :
    site.shown u = '_' := by
  cases u with
  | none => rfl
  | some ch =>
    obtain ⟨hletter, hdash⟩ := not_or.mp h
    rw [shown]
    split
    · rename_i hkept
      rw [Bool.or_eq_true, Bool.or_eq_true, decide_eq_true_eq, decide_eq_true_eq] at hkept
      exact (hkept.resolve_right hdash).resolve_left hletter
    · rfl

theorem shown_eq_iff (h : site.ReadsAscii) (u v : Option Char) :
    site.shown u = site.shown v ↔ CharsLookAlike site.isLetterOrDigit u v := by
  -- No telling `char` is written as an underscore.
  have hne : ∀ {w}, IsTelling site.isLetterOrDigit w → site.shown w ≠ '_' := by
    intro w hw hshown
    have hsome := shown_of_isTelling hw
    rw [hsome, hshown] at hw
    obtain hletter | hdash := hw
    · rw [h '_' (by decide)] at hletter
      exact absurd hletter (by decide)
    · exact absurd hdash (by decide)
  constructor
  · intro hshown
    by_cases hu : IsTelling site.isLetterOrDigit u
    · have hv : IsTelling site.isLetterOrDigit v := by
        by_contra hv
        exact hne hu (hshown.trans (shown_of_not_isTelling hv))
      exact .inl (by rw [shown_of_isTelling hu, shown_of_isTelling hv, hshown])
    · have hv : ¬ IsTelling site.isLetterOrDigit v := fun hv =>
        hne hv (hshown.symm.trans (shown_of_not_isTelling hu))
      exact .inr ⟨hu, hv⟩
  · rintro (rfl | ⟨hu, hv⟩)
    · rfl
    · rw [shown_of_not_isTelling hu, shown_of_not_isTelling hv]

/-- **Names are equal** just when the IDs look alike. -/
theorem makePathName_eq_iff (h : site.ReadsAscii) (id id' : String) :
    (site.ofMachine id).makePathName = (site.ofMachine id').makePathName ↔
      LookAlike site.isLetterOrDigit id id' := by
  have hforall : ∀ us vs : List (Option Char), us.map site.shown = vs.map site.shown ↔
      List.Forall₂ (CharsLookAlike site.isLetterOrDigit) us vs := by
    intro us vs
    rw [← List.forall₂_eq_eq_eq, List.forall₂_map_left_iff, List.forall₂_map_right_iff]
    simp only [shown_eq_iff h]
  rw [makePathName_eq, makePathName_eq, LookAlike, ← hforall, ← String.toList_inj,
    String.toList_ofList, String.toList_ofList]
  rfl

theorem toList_makePathName (site : CameraSite) :
    site.makePathName.toList = site.machineID.toList.flatMap fun ch =>
      if 0xffff < ch.toNat then ['_', '_']
      else if site.isLetterOrDigit ch || ch = '_' || ch = '-' then [ch] else ['_'] :=
  String.toList_ofList

/-- A name with a suffix is the name of an ID with this suffix. -/
theorem makePathName_append (h : site.ReadsAscii) (id : String) {suffix : String}
    (hsuffix : suffix.toList.all fun ch => ch = '_' || (ch.toNat < 0x80 && ch.isAlphanum)) :
    (site.ofMachine (id ++ suffix)).makePathName =
      (site.ofMachine id).makePathName ++ suffix := by
  have hsame : (suffix.toList.flatMap fun ch =>
      if 0xffff < ch.toNat then ['_', '_']
      else if site.isLetterOrDigit ch || ch = '_' || ch = '-' then [ch] else ['_']) =
        suffix.toList := by
    refine (List.flatMap_congr fun ch hch => ?_).trans (List.flatMap_singleton' _)
    have hplain := List.all_eq_true.mp hsuffix ch hch
    rw [Bool.or_eq_true, Bool.and_eq_true, decide_eq_true_eq, decide_eq_true_eq] at hplain
    obtain rfl | ⟨hascii, halphanum⟩ := hplain
    · simp
    · rw [if_neg (by omega), h ch hascii, halphanum]
      rfl
  have hmachineID : (site.ofMachine (id ++ suffix)).machineID.toList =
      id.toList ++ suffix.toList := String.toList_append
  rw [← String.toList_inj, String.toList_append, toList_makePathName, toList_makePathName,
    hmachineID, List.flatMap_append]
  exact congrArg _ hsame

/-! ### Paths -/

theorem pathName_full_eq (h : site.ReadsAscii) (id : String) :
    (site.ofMachine id).pathName .full = (site.ofMachine (id ++ "_full")).makePathName :=
  (makePathName_append h id (by decide)).symm

theorem pathName_glance_eq (h : site.ReadsAscii) (id : String) :
    (site.ofMachine id).pathName .glance = (site.ofMachine (id ++ "_glance")).makePathName :=
  (makePathName_append h id (by decide)).symm

theorem pathName_full_ne_glance (site site' : CameraSite) :
    site.pathName .full ≠ site'.pathName .glance := by
  intro heq
  have hlast := congrArg (fun s => s.toList.getLast?) heq
  simp [pathName] at hlast

/-- Two paths that are named in the same way have the same name just when the machines have. -/
theorem pathName_eq_iff_makePathName (path : CameraPath) (id id' : String) :
    (site.ofMachine id).pathName path = (site.ofMachine id').pathName path ↔
      (site.ofMachine id).makePathName = (site.ofMachine id').makePathName := by
  cases path with
  | pull => rfl
  | full => exact String.append_left_inj _
  | glance => exact String.append_left_inj _

/-- The names of two paths. -/
theorem pathName_eq_iff (h : site.ReadsAscii) (id id' : String) (path path' : CameraPath) :
    (site.ofMachine id).pathName path = (site.ofMachine id').pathName path' ↔
      PathsCollide site.isLetterOrDigit id path id' path' := by
  have hsame := fun path => (pathName_eq_iff_makePathName path id id').trans
    (makePathName_eq_iff h id id')
  match path, path' with
  | .pull, .pull => exact hsame .pull
  | .full, .full => exact hsame .full
  | .glance, .glance => exact hsame .glance
  | .pull, .full =>
    rw [pathName_full_eq h]
    exact makePathName_eq_iff h id (id' ++ "_full")
  | .pull, .glance =>
    rw [pathName_glance_eq h]
    exact makePathName_eq_iff h id (id' ++ "_glance")
  | .full, .pull =>
    rw [pathName_full_eq h]
    exact makePathName_eq_iff h (id ++ "_full") id'
  | .glance, .pull =>
    rw [pathName_glance_eq h]
    exact makePathName_eq_iff h (id ++ "_glance") id'
  | .full, .glance => exact iff_of_false (pathName_full_ne_glance _ _) fun hfalse => hfalse
  | .glance, .full => exact iff_of_false (pathName_full_ne_glance _ _).symm fun hfalse => hfalse

/-- **The names of two machines** are different ones if and only if the machines do not collide. -/
theorem disjoint_registers_iff (h : site.ReadsAscii) (id id' : String)
    (source source' : CameraSource) :
    ((site.ofMachine id).registers source).Disjoint ((site.ofMachine id').registers source') ↔
      ¬ Collides site.isLetterOrDigit id source id' source' := by
  have hpaths : ((site.ofMachine id).registers source).Disjoint
        ((site.ofMachine id').registers source') ↔
      ∀ path ∈ source.paths, ∀ path' ∈ source'.paths,
        (site.ofMachine id).pathName path ≠ (site.ofMachine id').pathName path' := by
    rw [registers, registers, List.disjoint_iff_ne]
    simp only [List.forall_mem_map]
  rw [hpaths]
  simp only [ne_eq, pathName_eq_iff h]
  cases source with
  | noCamera => simp [CameraSource.paths, Collides]
  | pull upstream spec =>
    cases source' with
    | noCamera => simp [CameraSource.paths, Collides]
    | pull upstream' spec' => simp [CameraSource.paths, Collides, PathsCollide]
    | publisher full' fullSpec' glance' glanceSpec' =>
      cases glance' <;> simp [CameraSource.paths, Collides, PathsCollide]
  | publisher full fullSpec glance glanceSpec =>
    cases source' with
    | noCamera => cases glance <;> simp [CameraSource.paths, Collides]
    | pull upstream' spec' =>
      cases glance <;> simp [CameraSource.paths, Collides, PathsCollide]
    | publisher full' fullSpec' glance' glanceSpec' =>
      cases glance <;> cases glance' <;> simp [CameraSource.paths, Collides, PathsCollide]

private def asciiSite : CameraSite := ⟨"", Char.isAlphanum, fun name => name, fun name => name⟩

private def upstreamCamera : CameraSource :=
  .pull "rtsps://192.168.1.5:322/streaming/live/1" default

/-- Two printers of one model. -/
theorem disjoint_registers_iff_serials :
    ((asciiSite.ofMachine "BLL00M09A1").registers upstreamCamera).Disjoint
        ((asciiSite.ofMachine "BLL00M09A2").registers upstreamCamera) := by
  have hcollides : ¬ Collides Char.isAlphanum "BLL00M09A1" upstreamCamera
      "BLL00M09A2" upstreamCamera := by
    change ¬ LookAlike Char.isAlphanum "BLL00M09A1" "BLL00M09A2"
    decide +kernel
  exact (disjoint_registers_iff (fun _ _ => rfl) _ _ _ _).mpr hcollides

/-- A blank and an underscore. -/
theorem disjoint_registers_fails :
    "BLL00M09A 1" ≠ "BLL00M09A_1" ∧
      (asciiSite.ofMachine "BLL00M09A 1").registers upstreamCamera = ["BLL00M09A_1"] ∧
      (asciiSite.ofMachine "BLL00M09A_1").registers upstreamCamera = ["BLL00M09A_1"] ∧
      ¬ ((asciiSite.ofMachine "BLL00M09A 1").registers upstreamCamera).Disjoint
        ((asciiSite.ofMachine "BLL00M09A_1").registers upstreamCamera) := by
  have hblank : (asciiSite.ofMachine "BLL00M09A 1").registers upstreamCamera =
      ["BLL00M09A_1"] := by decide +kernel
  have hunderscore : (asciiSite.ofMachine "BLL00M09A_1").registers upstreamCamera =
      ["BLL00M09A_1"] := by decide +kernel
  refine ⟨by decide, hblank, hunderscore, fun hdisjoint => ?_⟩
  rw [hblank, hunderscore] at hdisjoint
  exact hdisjoint List.mem_cons_self List.mem_cons_self

end CameraSite

/-! ### What the coordinator asks for -/

namespace CameraSession

variable {site : CameraSite} {S : CameraSession}

/-- The names of the session are those of its camera. -/
structure Named (site : CameraSite) (S : CameraSession) : Prop where
  setup : ∀ path call, S.setup = .adding path call → path ∈ S.source.paths
  tracks : ∀ track ∈ S.tracks, track.pathName ∈ site.registers S.source

theorem named_notMade : notMade.Named site where
  setup _ _ h := by cases h
  tracks _ h := absurd h List.not_mem_nil

theorem named_begun {source : CameraSource} {path : CameraPath} (h : path ∈ source.paths) :
    (begun source path).Named site where
  setup _ _ hadding := by
    cases hadding
    exact h
  tracks _ htrack := absurd htrack List.not_mem_nil

theorem Named.finished (h : S.Named site) : { S with setup := .finished }.Named site where
  setup _ _ hadding := by cases hadding
  tracks := h.tracks

theorem Named.adding (h : S.Named site) {path : CameraPath} (hpath : path ∈ S.source.paths)
    (call : RelayCall) : { S with setup := .adding path call }.Named site where
  setup _ _ hadding := by
    cases hadding
    exact hpath
  tracks := h.tracks

theorem Named.addTrack (h : S.Named site) {path : CameraPath} (hpath : path ∈ S.source.paths) :
    (S.addTrack (site.pathName path)).Named site where
  setup := h.setup
  tracks track htrack := by
    obtain hold | hnew := List.mem_append.mp htrack
    · exact h.tracks track hold
    · rw [List.mem_singleton.mp hnew]
      exact List.mem_map_of_mem hpath

end CameraSession

namespace MediaMTXCameraCoordinator

variable {site : CameraSite} {σ σ' : MediaMTXCameraCoordinator}

/-- The names of all sessions are those of their cameras, and the health check asks for the path of
a pull camera only where the session has one. -/
structure Named (site : CameraSite) (σ : MediaMTXCameraCoordinator) : Prop where
  sessions : ∀ k, (σ.sessions k).Named site
  fresh : ∀ k, σ.sessionsMade ≤ k → (σ.sessions k).source = .noCamera
  pull : ∀ k call, σ.healthCheck = .addingPull k call → .pull ∈ (σ.sessions k).source.paths

theorem named_initial (h : Initial site σ) : σ.Named site where
  sessions k := by
    rw [h.sessions k]
    exact CameraSession.named_notMade
  fresh k _ := by rw [h.sessions k]; rfl
  pull k call hpull := by
    rw [h.healthCheck] at hpull
    cases hpull

/-- Only the sessions and the health check matter. -/
theorem Named.congr (h : σ.Named site) (hsessions : σ'.sessions = σ.sessions)
    (hmade : σ'.sessionsMade = σ.sessionsMade) (hcheck : σ'.healthCheck = σ.healthCheck) :
    σ'.Named site where
  sessions k := by
    rw [hsessions]
    exact h.sessions k
  fresh k hk := by
    rw [hsessions]
    exact h.fresh k (hmade ▸ hk)
  pull k call hpull := by
    rw [hsessions]
    exact h.pull k call (hcheck ▸ hpull)

theorem sessions_setSession_self (σ : MediaMTXCameraCoordinator) (k : ℕ) (S : CameraSession) :
    (σ.setSession k S).sessions k = S := Function.update_self ..

theorem sessions_setSession_of_ne (σ : MediaMTXCameraCoordinator) {k k' : ℕ} (h : k' ≠ k)
    (S : CameraSession) : (σ.setSession k S).sessions k' = σ.sessions k' :=
  Function.update_of_ne h ..

/-- A session goes on. -/
theorem Named.setSession (h : σ.Named site) {k : ℕ} {S : CameraSession} (hS : S.Named site)
    (hsource : S.source = (σ.sessions k).source) : (σ.setSession k S).Named site := by
  have hsources : ∀ k', ((σ.setSession k S).sessions k').source = (σ.sessions k').source := by
    intro k'
    by_cases hk : k' = k
    · rw [hk, sessions_setSession_self, hsource]
    · rw [sessions_setSession_of_ne σ hk]
  refine ⟨fun k' => ?_, fun k' hk' => ?_, fun k' call hpull => ?_⟩
  · by_cases hk : k' = k
    · rw [hk, sessions_setSession_self]
      exact hS
    · rw [sessions_setSession_of_ne σ hk]
      exact h.sessions k'
  · rw [hsources]
    exact h.fresh k' hk'
  · rw [hsources]
    exact h.pull k' call hpull

/-- Some session of which only the teardown and the cancellation change. -/
theorem Named.withTeardown (h : σ.Named site) (k : ℕ) (cancelled disposed : Bool)
    (teardown : TeardownPhase) :
    (σ.setSession k { σ.sessions k with cancelled, disposed, teardown }).Named site :=
  h.setSession ⟨(h.sessions k).setup, (h.sessions k).tracks⟩ rfl

/-- A setup begins. The health check is not at its session yet. -/
theorem Named.begun (h : σ.Named site) {source : CameraSource} {path : CameraPath}
    (hpath : path ∈ source.paths)
    (hsessions : σ'.sessions = (σ.setSession σ.sessionsMade (.begun source path)).sessions)
    (hmade : σ'.sessionsMade = σ.sessionsMade + 1) (hcheck : σ'.healthCheck = σ.healthCheck) :
    σ'.Named site where
  sessions k := by
    rw [hsessions]
    by_cases hk : k = σ.sessionsMade
    · rw [hk, sessions_setSession_self]
      exact CameraSession.named_begun hpath
    · rw [sessions_setSession_of_ne σ hk]
      exact h.sessions k
  fresh k hk := by
    have hlt : σ.sessionsMade < k := by omega
    rw [hsessions, sessions_setSession_of_ne σ hlt.ne']
    exact h.fresh k hlt.le
  pull k call hpull := by
    have hmem := h.pull k call (hcheck ▸ hpull)
    have hne : k ≠ σ.sessionsMade := by
      rintro rfl
      rw [h.fresh _ le_rfl] at hmem
      cases hmem
    rw [hsessions, sessions_setSession_of_ne σ hne]
    exact hmem

theorem Named.setupAsync (h : σ.Named site) (source : CameraSource) :
    (σ.setupAsync source).Named site := by
  unfold MediaMTXCameraCoordinator.setupAsync
  dsimp only
  split
  · exact h.begun List.mem_cons_self rfl rfl rfl
  · exact h.begun (CameraSource.full_mem_paths ..) rfl rfl rfl
  · exact h

theorem Named.nextTrack (h : σ.Named site) (k track version : ℕ) :
    (σ.nextTrack k track version).Named site := by
  unfold MediaMTXCameraCoordinator.nextTrack
  dsimp only
  split
  · exact h.withTeardown k _ _ .faulted
  · split
    · exact h.withTeardown k _ _ (.awaiting track version)
    · exact (h.withTeardown k (σ.sessions k).cancelled true .finished).congr rfl rfl rfl

theorem Named.teardownAsync (h : σ.Named site) : σ.teardownAsync.Named site := by
  unfold MediaMTXCameraCoordinator.teardownAsync
  split
  · exact h
  · rename_i k _
    refine Named.nextTrack ?_ k 0 _
    exact (h.withTeardown k true _ (σ.sessions k).teardown).congr rfl rfl rfl

theorem Named.sync (h : σ.Named site) (source : CameraSource) : (σ.sync source).Named site := by
  unfold MediaMTXCameraCoordinator.sync
  split
  · exact h.setupAsync source
  · split
    · exact h.teardownAsync
    · exact h

theorem Named.resumeSetup (h : σ.Named site) {k : ℕ} (hstep : σ.resumeSetup site k = some σ') :
    σ'.Named site := by
  have hpath := (h.sessions k).setup
  simp only [MediaMTXCameraCoordinator.resumeSetup] at hstep
  split at hstep
  case h_1 | h_2 => cases hstep
  case h_3 =>
    cases hstep
    have hcaught : CameraSession.Named site
        { σ.sessions k with setup := .finished, cancelled := true } :=
      ⟨fun _ _ hadding => (by cases hadding), (h.sessions k).tracks⟩
    exact (h.setSession hcaught rfl).congr rfl rfl rfl
  case h_4 hsetup =>
    cases hstep
    exact (h.setSession (h.sessions k).finished rfl).congr rfl rfl rfl
  case h_5 hsetup =>
    have hfull := (h.sessions k).addTrack (hpath _ _ hsetup)
    split at hstep
    · rename_i hsource
      cases hstep
      refine h.setSession (hfull.adding ?_ .pending) rfl
      exact hsource ▸ List.mem_cons_of_mem _ List.mem_cons_self
    · cases hstep
      exact (h.setSession hfull.finished rfl).congr rfl rfl rfl
  case h_6 hsetup =>
    cases hstep
    exact (h.setSession ((h.sessions k).addTrack (hpath _ _ hsetup)).finished rfl).congr rfl rfl rfl

theorem Named.publisher (h : σ.Named site) {k j : ℕ} {event : PublisherEvent}
    (hstep : σ.publisher k j event = some σ') : σ'.Named site := by
  obtain ⟨track, htrack, hphase⟩ := Option.bind_eq_some_iff.mp hstep
  obtain ⟨phase, -, rfl⟩ := Option.map_eq_some_iff.mp hphase
  have hmoved : CameraSession.Named site { σ.sessions k with
      tracks := (σ.sessions k).tracks.set j { track with publisher := phase } } := by
    refine ⟨(h.sessions k).setup, fun t ht => ?_⟩
    obtain hold | rfl := List.mem_or_eq_of_mem_set ht
    · exact (h.sessions k).tracks t hold
    · exact (h.sessions k).tracks track (List.mem_of_getElem? htrack)
  exact (h.setSession hmoved rfl).congr rfl rfl rfl

theorem Named.resumeTeardown (h : σ.Named site) {k : ℕ} (hstep : σ.resumeTeardown k = some σ') :
    σ'.Named site := by
  simp only [MediaMTXCameraCoordinator.resumeTeardown] at hstep
  split at hstep
  case h_1 =>
    split at hstep
    all_goals cases hstep
    exact h.withTeardown k _ _ _
  case h_2 =>
    cases hstep
    exact h.nextTrack ..
  case h_3 => cases hstep

theorem Named.checkTrack (h : σ.Named site) (k track version : ℕ) :
    (σ.checkTrack k track version).Named site where
  sessions := h.sessions
  fresh := h.fresh
  pull k' call hpull := by
    simp only [MediaMTXCameraCoordinator.checkTrack] at hpull
    split at hpull
    · cases hpull
    · split at hpull <;> cases hpull

theorem Named.beginHealthCheck (h : σ.Named site) (hstep : σ.beginHealthCheck = some σ') :
    σ'.Named site := by
  simp only [MediaMTXCameraCoordinator.beginHealthCheck] at hstep
  split at hstep
  case h_1 =>
    obtain ⟨k, -, rfl⟩ := Option.map_eq_some_iff.mp hstep
    exact ⟨h.sessions, h.fresh, fun _ _ hpull => by cases hpull⟩
  case h_2 k _ =>
    split at hstep
    · split at hstep
      case h_1 hsource =>
        cases hstep
        refine ⟨h.sessions, h.fresh, fun k' _ hpull => ?_⟩
        cases hpull
        exact hsource ▸ List.mem_cons_self
      case h_2 =>
        cases hstep
        exact h.checkTrack ..
      case h_3 =>
        cases hstep
        exact ⟨h.sessions, h.fresh, fun _ _ hpull => by cases hpull⟩
    · cases hstep
      exact ⟨h.sessions, h.fresh, fun _ _ hpull => by cases hpull⟩
  case h_3 => cases hstep

theorem Named.answerHealthCheck (h : σ.Named site) {answer : RelayAnswer}
    (hstep : σ.answerHealthCheck site answer = some σ') : σ'.Named site := by
  obtain ⟨pathName, -, rfl⟩ := Option.map_eq_some_iff.mp hstep
  refine ⟨h.sessions, h.fresh, fun k call hpull => ?_⟩
  dsimp only at hpull
  split at hpull
  case h_1 hcheck =>
    cases hpull
    exact h.pull k _ hcheck
  case h_2 => cases hpull
  case h_3 => exact h.pull k call hpull

theorem Named.resumeHealthCheck (h : σ.Named site) (hstep : σ.resumeHealthCheck = some σ') :
    σ'.Named site := by
  simp only [MediaMTXCameraCoordinator.resumeHealthCheck] at hstep
  split at hstep
  case h_4 =>
    cases hstep
    exact h.checkTrack ..
  case h_5 => cases hstep
  all_goals
    cases hstep
    exact ⟨h.sessions, h.fresh, fun _ _ hpull => by cases hpull⟩

theorem Named.step (h : σ.Named site) {e : CameraEvent} (hstep : σ.perform site e = some σ') :
    σ'.Named site := by
  cases e with
  | statusChange status source =>
    cases hstep
    have hstatus : Named site { σ with status } := h.congr rfl rfl rfl
    unfold MediaMTXCameraCoordinator.statusChange
    split
    · exact hstatus.sync source
    · exact hstatus
  | sync source =>
    simp only [MediaMTXCameraCoordinator.perform] at hstep
    split at hstep
    all_goals cases hstep
    exact h.sync source
  | remove =>
    simp only [MediaMTXCameraCoordinator.perform] at hstep
    split at hstep
    all_goals cases hstep
    exact h.congr rfl rfl rfl
  | onMachineRemoved =>
    simp only [MediaMTXCameraCoordinator.perform] at hstep
    split at hstep
    all_goals cases hstep
    have hremoved : Named site { σ with removing := false } := h.congr rfl rfl rfl
    exact hremoved.teardownAsync
  | answerSetup k answer =>
    simp only [MediaMTXCameraCoordinator.perform, MediaMTXCameraCoordinator.answerSetup] at hstep
    split at hstep
    case h_1 hsetup =>
      cases hstep
      have hpath := (h.sessions k).setup _ _ hsetup
      exact (h.setSession ((h.sessions k).adding hpath answer.call) rfl).congr rfl rfl rfl
    case h_2 => cases hstep
  | resumeSetup k => exact h.resumeSetup hstep
  | publisher k j event => exact h.publisher hstep
  | answerTeardown k removed =>
    simp only [MediaMTXCameraCoordinator.perform, MediaMTXCameraCoordinator.answerTeardown] at hstep
    split at hstep
    · obtain ⟨track, -, rfl⟩ := Option.map_eq_some_iff.mp hstep
      exact (h.withTeardown k _ _ _).congr rfl rfl rfl
    · cases hstep
  | resumeTeardown k => exact h.resumeTeardown hstep
  | healthCheck => exact h.beginHealthCheck hstep
  | answerHealthCheck answer => exact h.answerHealthCheck hstep
  | resumeHealthCheck => exact h.resumeHealthCheck hstep
  | other relay =>
    simp only [MediaMTXCameraCoordinator.perform] at hstep
    split at hstep
    all_goals cases hstep
    exact h.congr rfl rfl rfl

theorem named_of_reachable (h : Reachable (Initial site) (Step site) σ) : σ.Named site :=
  h.induct (fun _ hinitial => named_initial hinitial) fun _ _ _ hnamed ⟨_, hstep⟩ =>
    hnamed.step hstep

/-- **What is registered**: in any run a setup asks for a name of its camera, and the health check
for one of the camera of some session. -/
theorem requested_mem_registers (h : Reachable (Initial site) (Step site) σ) :
    (∀ k path call, (σ.sessions k).setup = .adding path call →
      site.pathName path ∈ site.registers (σ.sessions k).source) ∧
      ∀ pathName, σ.checkedPath site = some pathName →
        ∃ k, pathName ∈ site.registers (σ.sessions k).source := by
  have hnamed := named_of_reachable h
  constructor
  · intro k path call hsetup
    exact List.mem_map_of_mem ((hnamed.sessions k).setup path call hsetup)
  · intro pathName hchecked
    simp only [checkedPath] at hchecked
    split at hchecked
    case h_1 k hcheck =>
      cases hchecked
      exact ⟨k, List.mem_map_of_mem (hnamed.pull k _ hcheck)⟩
    case h_2 k track version hcheck =>
      obtain ⟨t, htrack, rfl⟩ := Option.map_eq_some_iff.mp hchecked
      exact ⟨k, (hnamed.sessions k).tracks t (List.mem_of_getElem? htrack)⟩
    case h_3 => cases hchecked

end MediaMTXCameraCoordinator

end Connect3Dp
