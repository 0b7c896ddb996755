import Connect3Dp.Relays.CameraCoordinator
import Connect3Dp.Connectors.Outcome
import Connect3Dp.Runtime.Transition

/-!
# What the camera coordinator leaves behind

When a machine is disconnected or removed and every task has finished, nothing of its cameras is to
be left (`Clean`). A teardown removes the paths of the tracks that it finds in its session, and
nobody removes another path: that of a pull camera, which has no track, that of a setup whose
session is no longer in `Active`, or one that the health check registers too late. `Keeps` excludes
these, and `Tidy` is the invariant of the runs that meet it: every path at the relay still has
somebody who removes it.
-/

namespace Connect3Dp

/-! ### The machine -/

namespace MachineConnection

variable {Cron : Type} [DecidableEq Cron] [Hashable (HeatingSchedule Cron)]
  [Hashable (ScheduledPrint Cron)]

/-- `SetStreamingURLs` is a commit. It writes the URLs and leaves the status. -/
theorem setStreamingURLs_commitStep {env : Environment Cron} {c c' : MachineConnection Cron}
    {urls : Option MachineStreamingURLs}
    (h : CommitStep env ((default : MachineStateUpdate).setStreamingURLs urls) c c') :
    c'.state.streamingURLs = urls ∧ c'.state.status = c.state.status := by
  have hharmless : ((default : MachineStateUpdate).setStreamingURLs urls).Harmless :=
    ⟨MachineStateUpdate.harmless_default.keepsMaterials,
      MachineStateUpdate.harmless_default.keepsJob, MachineStateUpdate.harmless_default.usages⟩
  obtain ⟨c₁, hsame, hstate⟩ := state_commitStep_of_harmless h hharmless
  rw [hstate, show c.state = c₁.state from hsame.symm]
  exact ⟨rfl, rfl⟩

end MachineConnection

/-! ### Sessions -/

namespace CameraSession

def paths (S : CameraSession) : List String := S.tracks.map CameraTrack.pathName

/-- The number of tracks whose path the teardown has removed. -/
def removedTracks (S : CameraSession) : ℕ :=
  match S.teardown with
  | .notStarted => 0
  | .awaiting track _ | .removing track _ => track
  | .removed track _ => track + 1
  | .finished | .faulted => S.tracks.length

/-- The number of tracks whose publisher the teardown has awaited. -/
def awaitedTracks (S : CameraSession) : ℕ :=
  match S.teardown with
  | .notStarted | .faulted => 0
  | .awaiting track _ => track
  | .removing track _ | .removed track _ => track + 1
  | .finished => S.tracks.length

/-- The path is that of a track, and the teardown has not removed it yet. -/
def Owes (S : CameraSession) (pathName : String) : Prop := pathName ∈ S.paths.drop S.removedTracks

/-- The setup has yet to add the track of a path that it registered. -/
def Added (site : CameraSite) (S : CameraSession) (pathName : String) : Prop :=
  ∃ path, S.setup = .adding path .returned ∧ site.pathName path = pathName

/-- The path has somebody who removes it, once the setup has gone on. -/
def Holds (site : CameraSite) (S : CameraSession) (pathName : String) : Prop :=
  S.Owes pathName ∨ S.Added site pathName

/-- The URLs have somebody who takes them away. -/
def Displays (S : CameraSession) (isActive : Prop) : Prop :=
  S.teardown.isRunning = true ∨ isActive ∧ S.tracks ≠ []

/-- What holds of a session in a run that meets `Keeps`. -/
structure Orderly (S : CameraSession) (isActive : Prop) : Prop where
  active : isActive → S.teardown = .notStarted
  tracks : S.tracks ≠ [] → isActive ∨ S.teardown ≠ .notStarted
  removed : ∀ track version, S.teardown = .removed track version → version = S.tracks.length
  removing : ∀ track version, S.teardown = .removing track version → version = S.tracks.length
  awaiting : ∀ track version, S.teardown = .awaiting track version → version = S.tracks.length
  notFaulted : S.teardown ≠ .faulted
  ended : ∀ j < S.awaitedTracks, ∀ track, S.tracks[j]? = some track → track.publisher = .ended
  notPull : S.setup ≠ .adding .pull .returned

variable {site : CameraSite} {S S' : CameraSession} {isActive : Prop}

theorem removedTracks_eq (hteardown : S'.teardown = S.teardown)
    (hlength : S'.tracks.length = S.tracks.length) : S'.removedTracks = S.removedTracks := by
  rw [removedTracks, removedTracks, hteardown, hlength]

theorem awaitedTracks_eq (hteardown : S'.teardown = S.teardown)
    (hlength : S'.tracks.length = S.tracks.length) : S'.awaitedTracks = S.awaitedTracks := by
  rw [awaitedTracks, awaitedTracks, hteardown, hlength]

theorem orderly_notMade (h : ¬ isActive) : notMade.Orderly isActive where
  active h' := absurd h' h
  tracks h := absurd rfl h
  removed _ _ h := by cases h
  removing _ _ h := by cases h
  awaiting _ _ h := by cases h
  notFaulted h := by cases h
  ended j hj := absurd hj (Nat.not_lt_zero j)
  notPull h := by cases h

theorem orderly_begun {source : CameraSource} {path : CameraPath} (h : isActive) :
    (begun source path).Orderly isActive where
  active _ := rfl
  tracks _ := .inl h
  removed _ _ h := by cases h
  removing _ _ h := by cases h
  awaiting _ _ h := by cases h
  notFaulted h := by cases h
  ended j hj := absurd hj (Nat.not_lt_zero j)
  notPull h := by cases h

theorem not_holds_notMade {p : String} : ¬ notMade.Holds site p := by
  rintro (howes | ⟨path, hadding, -⟩)
  · cases howes
  · cases hadding

end CameraSession

namespace MediaMTXCameraCoordinator

variable (site : CameraSite)

/-! ### Runs -/

def Step (σ σ' : MediaMTXCameraCoordinator) : Prop := ∃ e, σ.perform site e = some σ'

/-- What an event has to meet. No `AddPullPath` registers its path, and a request that raises has
registered none. A setup goes on from a path that it registered only while its session is in
`Active`, and fails only while the session there has no track. The requests that remove a path do
so, and the health check registers a path only while a session still has it to remove. -/
def Keeps (σ : MediaMTXCameraCoordinator) : CameraEvent → Prop
  | .answerSetup k answer => answer.registers = true →
      answer = .returned ∧ (σ.sessions k).setup ≠ .adding .pull .pending
  | .resumeSetup k =>
      (∀ path, (σ.sessions k).setup = .adding path .returned → σ.active = some k) ∧
      ∀ path, (σ.sessions k).setup = .adding path .raised →
        ∀ k', σ.active = some k' → (σ.sessions k').tracks = []
  | .answerTeardown _ removed => removed = true
  | .answerHealthCheck answer => answer.registers = true →
      ∀ pathName, σ.checkedPath site = some pathName → ∃ k, (σ.sessions k).Owes pathName
  | _ => True

/-! ### The invariant -/

/-- What every state of a run has whose events meet `Keeps`. -/
structure Tidy (σ : MediaMTXCameraCoordinator) : Prop where
  sessions : ∀ k, (σ.sessions k).Orderly (σ.active = some k)
  fresh : ∀ k, σ.sessionsMade ≤ k → σ.sessions k = .notMade
  relay : ∀ path, site.pathName path ∈ σ.relay →
    ∃ k, (σ.sessions k).Holds site (site.pathName path)
  streamingURLs : σ.inCollection = true → σ.streamingURLs ≠ none →
    ∃ k, (σ.sessions k).Displays (σ.active = some k)
  made : ∀ k, σ.active = some k → k < σ.sessionsMade

/-- A machine that is disconnected or removed has no session in `Active`. -/
structure Placed (σ : MediaMTXCameraCoordinator) : Prop where
  disconnected : σ.inCollection = true → σ.status = .disconnected → σ.active = none
  removed : σ.inCollection = false → σ.removing = false → σ.active = none

variable {site} {σ σ' : MediaMTXCameraCoordinator} {e : CameraEvent}

theorem tidy_initial (h : Initial site σ) : σ.Tidy site where
  sessions k := by
    rw [h.sessions k, h.active]
    exact CameraSession.orderly_notMade (by simp)
  fresh k _ := h.sessions k
  relay path hpath := absurd hpath (h.relay path)
  streamingURLs _ hurls := absurd h.streamingURLs hurls
  made k hactive := by
    rw [h.active] at hactive
    cases hactive

theorem Tidy.clean (h : σ.Tidy site) (hplaced : σ.Placed) (hsettled : σ.Settled)
    (hends : σ.status = .disconnected ∨ σ.inCollection = false) : σ.Clean site := by
  have hactive : σ.active = none := by
    cases hin : σ.inCollection with
    | true => exact hplaced.disconnected hin (hends.resolve_right (by simp [hin]))
    | false => exact hplaced.removed hin hsettled.removing
  have hinactive : ∀ k, σ.active ≠ some k := by simp [hactive]
  -- the teardown of a session with tracks has finished
  have hfinished : ∀ k, (σ.sessions k).tracks ≠ [] → (σ.sessions k).teardown = .finished := by
    intro k htracks
    have hstarted := ((h.sessions k).tracks htracks).resolve_left (hinactive k)
    have hrunning := hsettled.teardown k
    have hfaulted := (h.sessions k).notFaulted
    cases hteardown : (σ.sessions k).teardown with
    | notStarted => exact absurd hteardown hstarted
    | faulted => exact absurd hteardown hfaulted
    | finished => rfl
    | _ =>
      rw [hteardown] at hrunning
      cases hrunning
  refine ⟨fun path hpath => ?_, fun k track htrack => ?_, fun hin => ?_⟩
  · obtain ⟨k, howes | ⟨path', hadding, -⟩⟩ := h.relay path hpath
    · have htracks : (σ.sessions k).tracks ≠ [] := by
        intro hnil
        rw [CameraSession.Owes, CameraSession.paths, hnil] at howes
        simp at howes
      rw [CameraSession.Owes, CameraSession.removedTracks, hfinished k htracks] at howes
      have hnil : (σ.sessions k).paths.drop (σ.sessions k).tracks.length = [] := by
        rw [CameraSession.paths, ← List.map_drop, List.drop_length, List.map_nil]
      rw [hnil] at howes
      cases howes
    · rw [hsettled.setup k] at hadding
      cases hadding
  · obtain ⟨j, hj⟩ := List.getElem?_of_mem htrack
    refine (h.sessions k).ended j ?_ track hj
    rw [CameraSession.awaitedTracks, hfinished k (List.ne_nil_of_mem htrack)]
    exact (List.getElem?_eq_some_iff.mp hj).1
  · by_contra hurls
    obtain ⟨k, hrunning | ⟨hactive', -⟩⟩ := h.streamingURLs hin hurls
    · rw [hsettled.teardown k] at hrunning
      cases hrunning
    · exact hinactive k hactive'

/-! ### Changes of a session -/

theorem Tidy.lt_of_ne_notMade (h : σ.Tidy site) {k : ℕ} (hk : σ.sessions k ≠ .notMade) :
    k < σ.sessionsMade := by
  by_contra hle
  exact hk (h.fresh k (Nat.le_of_not_lt hle))

theorem Tidy.lt_of_setup (h : σ.Tidy site) {k : ℕ}
    (hsetup : (σ.sessions k).setup ≠ CameraSession.notMade.setup) : k < σ.sessionsMade :=
  h.lt_of_ne_notMade fun hnotMade => hsetup (congrArg CameraSession.setup hnotMade)

theorem Tidy.lt_of_teardown (h : σ.Tidy site) {k : ℕ}
    (hteardown : (σ.sessions k).teardown ≠ .notStarted) : k < σ.sessionsMade :=
  h.lt_of_ne_notMade fun hnotMade => hteardown (congrArg CameraSession.teardown hnotMade)

/-- One session changes, and `Active` loses at most a session without tracks. -/
theorem Tidy.update (h : σ.Tidy site) {k : ℕ} {S : CameraSession} (hk : k < σ.sessionsMade)
    (hsessions : σ'.sessions = Function.update σ.sessions k S)
    (hmade : σ'.sessionsMade = σ.sessionsMade) (hin : σ'.inCollection = σ.inCollection)
    (hactive : ∀ k' ≠ k, (σ'.active = some k' → σ.active = some k') ∧
      (σ.active = some k' → (σ.sessions k').tracks ≠ [] → σ'.active = some k'))
    (horderly : S.Orderly (σ'.active = some k))
    (hrelay : ∀ path, site.pathName path ∈ σ'.relay → S.Holds site (site.pathName path) ∨
      site.pathName path ∈ σ.relay ∧
        ((σ.sessions k).Holds site (site.pathName path) → S.Holds site (site.pathName path)))
    (hurls : σ'.inCollection = true → σ'.streamingURLs ≠ none →
      S.Displays (σ'.active = some k) ∨ σ.streamingURLs ≠ none ∧
        ((σ.sessions k).Displays (σ.active = some k) → S.Displays (σ'.active = some k))) :
    σ'.Tidy site := by
  have hself : σ'.sessions k = S := by rw [hsessions, Function.update_self]
  have hother : ∀ k' ≠ k, σ'.sessions k' = σ.sessions k' := by
    intro k' hne
    rw [hsessions, Function.update_of_ne hne]
  refine ⟨fun k' => ?_, fun k' hk' => ?_, fun path hpath => ?_, fun hin' hurls' => ?_,
    fun k' hactive' => ?_⟩
  -- the session that changes, and the others as they were
  · by_cases hne : k' = k
    · subst hne
      rw [hself]
      exact horderly
    · obtain ⟨hwas, hstays⟩ := hactive k' hne
      have hS := h.sessions k'
      rw [hother k' hne]
      exact { hS with
        active := fun hactive' => hS.active (hwas hactive')
        tracks := fun htracks =>
          (hS.tracks htracks).imp_left fun hactive' => hstays hactive' htracks }
  · have hne : k' ≠ k := by omega
    rw [hother k' hne]
    exact h.fresh k' (hmade ▸ hk')
  -- a path in the relay is held by the new session, or by the session that held it
  · obtain hholds | ⟨hold, hkeeps⟩ := hrelay path hpath
    · exact ⟨k, hself ▸ hholds⟩
    · obtain ⟨k', hk'⟩ := h.relay path hold
      by_cases hne : k' = k
      · subst hne
        exact ⟨k', hself ▸ hkeeps hk'⟩
      · exact ⟨k', hother k' hne ▸ hk'⟩
  · obtain hdisplays | ⟨hold, hkeeps⟩ := hurls hin' hurls'
    · exact ⟨k, hself ▸ hdisplays⟩
    · obtain ⟨k', hk'⟩ := h.streamingURLs (hin ▸ hin') hold
      by_cases hne : k' = k
      · subst hne
        exact ⟨k', hself ▸ hkeeps hk'⟩
      · refine ⟨k', ?_⟩
        rw [hother k' hne]
        exact hk'.imp_right fun ⟨hactive', htracks⟩ =>
          ⟨(hactive k' hne).2 hactive' htracks, htracks⟩
  · by_cases hne : k' = k
    · omega
    · have hmade' := h.made k' ((hactive k' hne).1 hactive')
      omega

/-- One session changes, and nothing else that matters. -/
theorem Tidy.setSession (h : σ.Tidy site) {k : ℕ} {S : CameraSession} (hk : k < σ.sessionsMade)
    (horderly : S.Orderly (σ.active = some k))
    (hholds : ∀ p, (σ.sessions k).Holds site p → S.Holds site p)
    (hdisplays : (σ.sessions k).Displays (σ.active = some k) → S.Displays (σ.active = some k))
    {crashed : HashSet String} : Tidy site { σ.setSession k S with crashed } :=
  h.update hk rfl rfl rfl (fun _ _ => ⟨id, fun hactive _ => hactive⟩) horderly
    (fun _ hpath => .inr ⟨hpath, hholds _⟩) fun _ hurls => .inr ⟨hurls, hdisplays⟩

/-! ### Publishers -/

/-- A publisher that goes on had not ended. -/
theorem perform_ended {cancelled disposed : Bool} {event : PublisherEvent} :
    PublisherPhase.ended.perform cancelled disposed event = none := by
  cases event
  all_goals rfl

theorem Tidy.publisher (h : σ.Tidy site) {k j : ℕ} {event : PublisherEvent}
    (hstep : σ.publisher k j event = some σ') : σ'.Tidy site := by
  obtain ⟨track, htrack, hphase⟩ := Option.bind_eq_some_iff.mp hstep
  obtain ⟨phase, hphase, rfl⟩ := Option.map_eq_some_iff.mp hphase
  have hk : k < σ.sessionsMade := by
    refine h.lt_of_ne_notMade fun hnotMade => ?_
    rw [hnotMade] at htrack
    cases htrack
  have hS := h.sessions k
  have hpaths : CameraSession.paths { σ.sessions k with
      tracks := (σ.sessions k).tracks.set j { track with publisher := phase } } =
        (σ.sessions k).paths := by
    obtain ⟨hlt, hget⟩ := List.getElem?_eq_some_iff.mp htrack
    rw [CameraSession.paths, List.map_set, CameraSession.paths]
    refine List.ext_getElem? fun j' => ?_
    rw [List.getElem?_set]
    split
    case isTrue hj' =>
      subst hj'
      simp [hget, hlt]
    case isFalse => rfl
  have hlength : ((σ.sessions k).tracks.set j { track with publisher := phase }).length =
      (σ.sessions k).tracks.length := List.length_set ..
  have hremoved : CameraSession.removedTracks { σ.sessions k with
      tracks := (σ.sessions k).tracks.set j { track with publisher := phase } } =
        (σ.sessions k).removedTracks := CameraSession.removedTracks_eq rfl hlength
  have hne : (σ.sessions k).tracks ≠ [] := by
    intro hnil
    rw [hnil] at htrack
    cases htrack
  refine h.setSession hk ?_ ?_ ?_
  · refine { hS with
      tracks := fun _ => hS.tracks hne
      removed := fun i n hi => (hS.removed i n hi).trans hlength.symm
      removing := fun i n hi => (hS.removing i n hi).trans hlength.symm
      awaiting := fun i n hi => (hS.awaiting i n hi).trans hlength.symm
      ended := fun j' hj' track' htrack' => ?_ }
    have hawaited : j' < (σ.sessions k).awaitedTracks :=
      lt_of_lt_of_eq hj' (CameraSession.awaitedTracks_eq rfl hlength)
    -- a publisher that has ended does not go on
    have hother : j' ≠ j := by
      rintro rfl
      rw [hS.ended j' hawaited track htrack, perform_ended] at hphase
      cases hphase
    refine hS.ended j' hawaited track' ?_
    rw [← htrack']
    exact (List.getElem?_set_ne hother.symm).symm
  · rintro p (howes | hadded)
    · refine .inl ?_
      rw [CameraSession.Owes, hpaths, hremoved]
      exact howes
    · exact .inr hadded
  · rintro (hrunning | ⟨hactive, -⟩)
    · exact .inl hrunning
    · refine .inr ⟨hactive, fun hnil => hne ?_⟩
      rw [← List.length_eq_zero_iff, ← hlength]
      exact List.length_eq_zero_iff.mpr hnil

/-! ### Teardowns -/

/-- The relay has removed the path of a track. -/
theorem Tidy.answerTeardown (h : σ.Tidy site) {k : ℕ} {removed : Bool}
    (hkeeps : σ.Keeps site (.answerTeardown k removed))
    (hstep : σ.answerTeardown k removed = some σ') : σ'.Tidy site := by
  obtain rfl : removed = true := hkeeps
  simp only [MediaMTXCameraCoordinator.answerTeardown] at hstep
  split at hstep
  case h_2 => cases hstep
  case h_1 i n hteardown =>
    obtain ⟨track, htrack, rfl⟩ := Option.map_eq_some_iff.mp hstep
    have hk : k < σ.sessionsMade := by
      refine h.lt_of_teardown fun hnone => ?_
      cases hteardown.symm.trans hnone
    have hS := h.sessions k
    -- the path that goes is the first of those that are still to be removed
    have hpaths : (σ.sessions k).paths.drop i =
        track.pathName :: (σ.sessions k).paths.drop (i + 1) := by
      obtain ⟨hlt, hget⟩ := List.getElem?_eq_some_iff.mp htrack
      have hlt' : i < (σ.sessions k).paths.length := by
        rw [CameraSession.paths, List.length_map]
        exact hlt
      rw [List.drop_eq_getElem_cons hlt', ← hget]
      simp only [CameraSession.paths, List.getElem_map]
    refine h.update hk rfl rfl rfl (fun _ _ => ⟨id, fun hactive _ => hactive⟩) ?_ ?_
      fun _ _ => .inl (.inl rfl)
    · have hended := hS.ended
      rw [CameraSession.awaitedTracks, hteardown] at hended
      refine { hS with
        active := fun hactive => ?_
        tracks := fun _ => .inr (by simp)
        removed := ?_
        removing := fun _ _ hremoving => by cases hremoving
        awaiting := fun _ _ hawaiting => by cases hawaiting
        notFaulted := by simp
        ended := hended }
      · rw [hS.active hactive] at hteardown
        cases hteardown
      · rintro _ _ ⟨⟩
        exact hS.removing i n hteardown
    · intro path hpath
      obtain ⟨hpath, hne⟩ := HashSet.mem_remove.mp hpath
      refine .inr ⟨hpath, ?_⟩
      rintro (howes | hadded)
      · rw [CameraSession.Owes, CameraSession.removedTracks, hteardown] at howes
        have hmem : site.pathName path ∈ (σ.sessions k).paths.drop i := howes
        rw [hpaths, List.mem_cons] at hmem
        exact .inl (hmem.resolve_left hne)
      · exact .inr hadded

/-- The loop of a teardown goes on, after some tracks of its session are done with. -/
theorem Tidy.nextTrack (h : σ.Tidy site) {k i : ℕ} (hk : k < σ.sessionsMade) (cancelled : Bool)
    {active : Option ℕ} (hinactive : active ≠ some k)
    (hactive : ∀ k' ≠ k, (active = some k' → σ.active = some k') ∧
      (σ.active = some k' → (σ.sessions k').tracks ≠ [] → active = some k'))
    (hended : ∀ j < i, ∀ track, (σ.sessions k).tracks[j]? = some track → track.publisher = .ended)
    (howes : ∀ p, (σ.sessions k).Owes p → p ∈ (σ.sessions k).paths.drop i) :
    Tidy site (MediaMTXCameraCoordinator.nextTrack
      { σ.setSession k { σ.sessions k with cancelled } with active } k i
      (σ.sessions k).tracks.length) := by
  have hS := h.sessions k
  have hself : Function.update σ.sessions k { σ.sessions k with cancelled } k =
      { σ.sessions k with cancelled } := Function.update_self ..
  simp only [MediaMTXCameraCoordinator.nextTrack, MediaMTXCameraCoordinator.setSession, hself,
    ne_eq, not_true_eq_false, if_false]
  split
  case isTrue hlt =>
    refine h.update (S := { σ.sessions k with
      cancelled, teardown := .awaiting i (σ.sessions k).tracks.length }) hk
        (Function.update_idem ..) rfl rfl hactive ?_ ?_ fun _ _ => .inl (.inl rfl)
    · refine { hS with
        active := fun h => absurd h hinactive
        tracks := fun _ => .inr (by simp)
        removed := fun _ _ hremoved => by cases hremoved
        removing := fun _ _ hremoving => by cases hremoving
        awaiting := ?_
        notFaulted := by simp
        ended := hended }
      rintro _ _ ⟨⟩
      rfl
    · exact fun path hpath => .inr ⟨hpath, fun hholds => hholds.imp_left (howes _)⟩
  case isFalse hge =>
    have hdone : (σ.sessions k).tracks.length ≤ i := Nat.le_of_not_lt hge
    simp only [finishTeardown, MediaMTXCameraCoordinator.setSession, hself]
    refine h.update (S := { σ.sessions k with
      cancelled, teardown := .finished, disposed := true }) hk
        (Function.update_idem ..) rfl rfl hactive ?_ ?_ fun hin hurls => ?_
    · exact { hS with
        active := fun h => absurd h hinactive
        tracks := fun _ => .inr (by simp)
        removed := fun _ _ hremoved => by cases hremoved
        removing := fun _ _ hremoving => by cases hremoving
        awaiting := fun _ _ hawaiting => by cases hawaiting
        notFaulted := by simp
        ended := fun j hj => hended j (lt_of_lt_of_le hj hdone) }
    · refine fun path hpath => .inr ⟨hpath, fun hholds => hholds.imp_left fun hmem => ?_⟩
      -- no path is left
      have hnil : (σ.sessions k).paths.drop i = [] := by
        rw [List.drop_eq_nil_iff, CameraSession.paths, List.length_map]
        exact hdone
      have hmem' := howes _ hmem
      rw [hnil] at hmem'
      cases hmem'
    · rw [if_pos hin] at hurls
      exact absurd rfl hurls

/-- A teardown goes on from what it awaits. -/
theorem Tidy.resumeTeardown (h : σ.Tidy site) {k : ℕ} (hstep : σ.resumeTeardown k = some σ') :
    σ'.Tidy site := by
  have hS := h.sessions k
  have hk : (σ.sessions k).teardown ≠ .notStarted → k < σ.sessionsMade := h.lt_of_teardown
  simp only [MediaMTXCameraCoordinator.resumeTeardown] at hstep
  split at hstep
  case h_1 i n hteardown =>
    split at hstep
    case isFalse => cases hstep
    case isTrue hpublisher =>
      cases hstep
      obtain ⟨track, htrack, hended⟩ := Option.map_eq_some_iff.mp hpublisher
      have hbefore := hS.ended
      rw [CameraSession.awaitedTracks, hteardown] at hbefore
      refine h.setSession (hk (by simp [hteardown])) ?_ ?_ fun _ => .inl rfl
      · refine { hS with
          active := fun hactive => ?_
          tracks := fun _ => .inr (by simp)
          removed := fun _ _ hremoved => by cases hremoved
          removing := ?_
          awaiting := fun _ _ hawaiting => by cases hawaiting
          notFaulted := by simp
          ended := fun j hj track' htrack' => ?_ }
        · rw [hS.active hactive] at hteardown
          cases hteardown
        · rintro _ _ ⟨⟩
          exact hS.awaiting i n hteardown
        -- the publisher that was awaited has ended now too
        · rcases Nat.lt_succ_iff_lt_or_eq.mp hj with hj | rfl
          · exact hbefore j hj track' htrack'
          · rw [htrack] at htrack'
            cases htrack'
            exact hended
      · rintro p (howes | hadded)
        · rw [CameraSession.Owes, CameraSession.removedTracks, hteardown] at howes
          exact .inl howes
        · exact .inr hadded
  case h_2 i n hteardown =>
    cases hstep
    -- the removal went well, so the loop goes on
    have hn := hS.removed i n hteardown
    have hinactive : σ.active ≠ some k := by
      intro hactive
      rw [hS.active hactive] at hteardown
      cases hteardown
    have hended := hS.ended
    rw [CameraSession.awaitedTracks, hteardown] at hended
    have howes : ∀ p, (σ.sessions k).Owes p → p ∈ (σ.sessions k).paths.drop (i + 1) := by
      intro p howes
      rw [CameraSession.Owes, CameraSession.removedTracks, hteardown] at howes
      exact howes
    have hnext := h.nextTrack (hk (by simp [hteardown])) (σ.sessions k).cancelled hinactive
      (fun _ _ => ⟨id, fun hactive _ => hactive⟩) hended howes
    rw [MediaMTXCameraCoordinator.setSession, Function.update_eq_self] at hnext
    rw [hn]
    exact hnext
  case h_3 => cases hstep

/-- A teardown begins. -/
theorem Tidy.teardownAsync (h : σ.Tidy site) : σ.teardownAsync.Tidy site := by
  unfold MediaMTXCameraCoordinator.teardownAsync
  split
  case h_1 => exact h
  case h_2 k hactive =>
    have hS := h.sessions k
    have hstarted := hS.active hactive
    have hother : ∀ k' ≠ k, σ.active ≠ some k' := by
      intro k' hne hactive'
      rw [hactive] at hactive'
      exact hne (Option.some.inj hactive').symm
    refine h.nextTrack ?_ true (by simp) (fun k' hne => ⟨fun hnone => ?_, fun hactive' => ?_⟩)
      (fun j hj => absurd hj (Nat.not_lt_zero j)) fun p howes => ?_
    · exact h.made k hactive
    · cases hnone
    · exact absurd hactive' (hother k' hne)
    · rw [CameraSession.Owes, CameraSession.removedTracks, hstarted] at howes
      exact howes

/-! ### Setups -/

/-- A new session. -/
theorem Tidy.begun (h : σ.Tidy site) (hnone : σ.active = none) (source : CameraSource)
    (path : CameraPath)
    (hsessions : σ'.sessions = Function.update σ.sessions σ.sessionsMade (.begun source path))
    (hmade : σ'.sessionsMade = σ.sessionsMade + 1) (hactive : σ'.active = some σ.sessionsMade)
    (hrelay : σ'.relay = σ.relay) (hin : σ'.inCollection = σ.inCollection)
    (hurls : σ'.streamingURLs = σ.streamingURLs) : σ'.Tidy site := by
  have hself : σ'.sessions σ.sessionsMade = .begun source path := by
    rw [hsessions, Function.update_self]
  have hother : ∀ k, k ≠ σ.sessionsMade → σ'.sessions k = σ.sessions k := by
    intro k hne
    rw [hsessions, Function.update_of_ne hne]
  have hinactive : ∀ k, σ.active ≠ some k := by simp [hnone]
  refine ⟨fun k => ?_, fun k hk => ?_, fun path' hpath => ?_, fun hin' hurls' => ?_,
    fun k hk => ?_⟩
  · by_cases hne : k = σ.sessionsMade
    · rw [hne, hself]
      exact CameraSession.orderly_begun hactive
    · have hS := h.sessions k
      rw [hother k hne]
      refine { hS with
        active := fun hk => ?_
        tracks := fun htracks => .inr ((hS.tracks htracks).resolve_left (hinactive k)) }
      rw [hactive] at hk
      exact absurd (Option.some.inj hk).symm hne
  · have hne : k ≠ σ.sessionsMade := by omega
    rw [hother k hne]
    exact h.fresh k (by omega)
  · obtain ⟨k, hk⟩ := h.relay path' (hrelay ▸ hpath)
    -- a session that is not made yet holds nothing
    have hne : k ≠ σ.sessionsMade := by
      rintro rfl
      rw [h.fresh σ.sessionsMade le_rfl] at hk
      exact CameraSession.not_holds_notMade hk
    exact ⟨k, hother k hne ▸ hk⟩
  · obtain ⟨k, hrunning | ⟨hk, -⟩⟩ := h.streamingURLs (hin ▸ hin') (hurls ▸ hurls')
    · have hne : k ≠ σ.sessionsMade := by
        rintro rfl
        rw [h.fresh σ.sessionsMade le_rfl] at hrunning
        cases hrunning
      exact ⟨k, .inl (hother k hne ▸ hrunning)⟩
    · exact absurd hk (hinactive k)
  · rw [hactive] at hk
    have hk' := Option.some.inj hk
    omega

/-- A setup begins. -/
theorem Tidy.setupAsync (h : σ.Tidy site) (source : CameraSource) :
    (σ.setupAsync source).Tidy site := by
  unfold MediaMTXCameraCoordinator.setupAsync
  dsimp only
  split
  case h_1 hnone => exact h.begun hnone _ .pull rfl rfl rfl rfl rfl rfl
  case h_2 hnone => exact h.begun hnone _ .full rfl rfl rfl rfl rfl rfl
  case h_3 => exact h

/-- The relay has answered a setup. -/
theorem Tidy.answerSetup (h : σ.Tidy site) {k : ℕ} {answer : RelayAnswer}
    (hkeeps : σ.Keeps site (.answerSetup k answer))
    (hstep : σ.answerSetup site k answer = some σ') : σ'.Tidy site := by
  simp only [MediaMTXCameraCoordinator.answerSetup] at hstep
  split at hstep
  case h_2 => cases hstep
  case h_1 path hsetup =>
    cases hstep
    have hk : k < σ.sessionsMade := by
      refine h.lt_of_setup fun hnone => ?_
      cases hsetup.symm.trans hnone
    have hS := h.sessions k
    refine h.update hk rfl rfl rfl (fun _ _ => ⟨id, fun hactive _ => hactive⟩) ?_ ?_
      fun _ hurls => .inr ⟨hurls, id⟩
    · refine { hS with notPull := fun hadding => ?_ }
      cases answer with
      | returned =>
        cases hadding
        exact (hkeeps rfl).2 hsetup
      | raised registered => cases hadding
    · intro path' hpath
      have hholds : ∀ p, (σ.sessions k).Holds site p →
          CameraSession.Holds site { σ.sessions k with setup := .adding path answer.call } p := by
        rintro p (howes | ⟨_, hadding, -⟩)
        · exact .inl howes
        · rw [hsetup] at hadding
          cases hadding
      have hrelay : site.pathName path' ∈
          if answer.registers then σ.relay.add (site.pathName path) else σ.relay := hpath
      split at hrelay
      case isFalse => exact .inr ⟨hrelay, hholds _⟩
      case isTrue hregisters =>
        rcases HashSet.mem_add.mp hrelay with hold | hnew
        · exact .inr ⟨hold, hholds _⟩
        · rw [(hkeeps hregisters).1]
          exact .inl (.inr ⟨path, rfl, hnew.symm⟩)

/-- A setup adds the track of a path that it registered. -/
theorem Tidy.addTrack (h : σ.Tidy site) {k : ℕ} {path : CameraPath} {setup : SetupPhase}
    (hactive : σ.active = some k) (hsetup : (σ.sessions k).setup = .adding path .returned)
    (hnotPull : setup ≠ .adding .pull .returned) {streamingURLs : Option MachineStreamingURLs} :
    Tidy site { σ.setSession k
      { (σ.sessions k).addTrack (site.pathName path) with setup } with streamingURLs } := by
  have hS := h.sessions k
  have hteardown := hS.active hactive
  have hpaths : ∀ p, p ∈ (σ.sessions k).paths ∨ p = site.pathName path →
      p ∈ ((σ.sessions k).addTrack (site.pathName path)).paths := by
    intro p hp
    simpa [CameraSession.paths, CameraSession.addTrack] using hp
  refine h.update (h.made k hactive) rfl rfl rfl (fun _ _ => ⟨id, fun hactive' _ => hactive'⟩)
    ?_ ?_ fun _ _ => .inl (.inr ⟨hactive, List.append_ne_nil_of_right_ne_nil _ (by simp)⟩)
  · refine {
      active := hS.active
      tracks := fun _ => .inl hactive
      removed := fun i n hi => ?_
      removing := fun i n hi => ?_
      awaiting := fun i n hi => ?_
      notFaulted := hS.notFaulted
      ended := fun j hj => ?_
      notPull := hnotPull }
    -- the teardown has not begun
    all_goals try cases hteardown.symm.trans hi
    have hnone : CameraSession.awaitedTracks
        { (σ.sessions k).addTrack (site.pathName path) with setup } = 0 := by
      simp [CameraSession.awaitedTracks, CameraSession.addTrack, hteardown]
    omega
  · refine fun path' hpath => .inr ⟨hpath, fun hholds => .inl ?_⟩
    have hall : CameraSession.removedTracks
        { (σ.sessions k).addTrack (site.pathName path) with setup } = 0 := by
      simp [CameraSession.removedTracks, CameraSession.addTrack, hteardown]
    rw [CameraSession.Owes, hall]
    refine hpaths _ ?_
    rcases hholds with howes | ⟨path'', hadding, hname⟩
    · exact .inl (List.mem_of_mem_drop howes)
    · rw [hsetup] at hadding
      cases hadding
      exact .inr hname.symm

/-- A setup goes on from what it awaits. -/
theorem Tidy.resumeSetup (h : σ.Tidy site) {k : ℕ} (hkeeps : σ.Keeps site (.resumeSetup k))
    (hstep : σ.resumeSetup site k = some σ') : σ'.Tidy site := by
  have hS := h.sessions k
  obtain ⟨hreturned, hraised⟩ := hkeeps
  simp only [MediaMTXCameraCoordinator.resumeSetup] at hstep
  split at hstep
  case h_1 => cases hstep
  case h_2 => cases hstep
  case h_3 path hsetup =>
    cases hstep
    have hk : k < σ.sessionsMade := by
      refine h.lt_of_setup fun hnone => ?_
      cases hsetup.symm.trans hnone
    -- nothing is lost with the session in `Active`
    have hempty := hraised path hsetup
    refine h.update hk rfl rfl rfl (fun k' hne => ⟨fun hnone => ?_, fun hactive htracks => ?_⟩)
      ?_ (fun path' hpath => .inr ⟨hpath, fun hholds => ?_⟩)
      fun _ hurls => .inr ⟨hurls, fun hdisplays => ?_⟩
    · cases hnone
    · exact absurd (hempty k' hactive) htracks
    · exact { hS with
        active := fun hnone => by cases hnone
        tracks := fun htracks =>
          .inr ((hS.tracks htracks).resolve_left fun hactive => htracks (hempty k hactive))
        notPull := fun hadding => by cases hadding }
    · refine hholds.imp_right fun ⟨path'', hadding, _⟩ => ?_
      rw [hsetup] at hadding
      cases hadding
    · exact hdisplays.imp_right fun ⟨hactive, htracks⟩ => absurd (hempty k hactive) htracks
  case h_4 hsetup => exact absurd hsetup hS.notPull
  case h_5 hsetup =>
    split at hstep
    all_goals
      cases hstep
      exact h.addTrack (hreturned .full hsetup) hsetup (by simp)
  case h_6 hsetup =>
    cases hstep
    exact h.addTrack (hreturned .glance hsetup) hsetup (by simp)

/-! ### Steps -/

/-- The machine and the health check matter only where the machine is taken out of the
collection. -/
theorem Tidy.congr (h : σ.Tidy site) (hsessions : σ'.sessions = σ.sessions)
    (hmade : σ'.sessionsMade = σ.sessionsMade) (hactive : σ'.active = σ.active)
    (hrelay : ∀ path, site.pathName path ∈ σ'.relay →
      ∃ k, (σ.sessions k).Holds site (site.pathName path))
    (hin : σ'.inCollection = true → σ.inCollection = true)
    (hurls : σ'.streamingURLs = σ.streamingURLs) : σ'.Tidy site where
  sessions k := by
    rw [hsessions, hactive]
    exact h.sessions k
  fresh k hk := by
    rw [hsessions]
    exact h.fresh k (hmade ▸ hk)
  relay path hpath := by
    rw [hsessions]
    exact hrelay path hpath
  streamingURLs hin' hurls' := by
    rw [hsessions, hactive]
    exact h.streamingURLs (hin hin') (hurls ▸ hurls')
  made k hk := by
    rw [hmade]
    exact h.made k (hactive ▸ hk)

theorem Tidy.sync (h : σ.Tidy site) (source : CameraSource) : (σ.sync source).Tidy site := by
  unfold MediaMTXCameraCoordinator.sync
  split
  · exact h.setupAsync source
  · split
    · exact h.teardownAsync
    · exact h

theorem Tidy.answerHealthCheck (h : σ.Tidy site) {answer : RelayAnswer}
    (hkeeps : σ.Keeps site (.answerHealthCheck answer))
    (hstep : σ.answerHealthCheck site answer = some σ') : σ'.Tidy site := by
  obtain ⟨pathName, hchecked, rfl⟩ := Option.map_eq_some_iff.mp hstep
  refine h.congr rfl rfl rfl (fun path hpath => ?_) id rfl
  have hrelay : site.pathName path ∈
      if answer.registers then σ.relay.add pathName else σ.relay := hpath
  split at hrelay
  case isFalse => exact h.relay path hrelay
  case isTrue hregisters =>
    rcases HashSet.mem_add.mp hrelay with hold | rfl
    · exact h.relay path hold
    · obtain ⟨k, howes⟩ := hkeeps hregisters _ hchecked
      exact ⟨k, .inl howes⟩

/-- The machine is the same, and no session comes into `Active`. -/
structure Stays (σ σ' : MediaMTXCameraCoordinator) : Prop where
  status : σ'.status = σ.status
  inCollection : σ'.inCollection = σ.inCollection
  removing : σ'.removing = σ.removing
  active : σ.active = none → σ'.active = none

theorem Placed.stays (h : σ.Placed) (hstays : Stays σ σ') : σ'.Placed where
  disconnected hin hstatus :=
    hstays.active (h.disconnected (hstays.inCollection ▸ hin) (hstays.status ▸ hstatus))
  removed hin hremoving :=
    hstays.active (h.removed (hstays.inCollection ▸ hin) (hstays.removing ▸ hremoving))

theorem stays_nextTrack (σ : MediaMTXCameraCoordinator) (k i n : ℕ) :
    Stays σ (σ.nextTrack k i n) := by
  unfold MediaMTXCameraCoordinator.nextTrack
  dsimp only
  split
  · exact ⟨rfl, rfl, rfl, id⟩
  · split
    all_goals exact ⟨rfl, rfl, rfl, id⟩

theorem active_teardownAsync (σ : MediaMTXCameraCoordinator) : σ.teardownAsync.active = none := by
  unfold MediaMTXCameraCoordinator.teardownAsync
  split
  · assumption
  · exact (stays_nextTrack ..).active rfl

/-- After `Sync`, a machine that is disconnected has no session in `Active`. -/
theorem placed_sync (hin : σ.inCollection = true) (source : CameraSource) :
    (σ.sync source).Placed := by
  unfold MediaMTXCameraCoordinator.sync
  split
  case isTrue hconnected =>
    have hmachine : (σ.setupAsync source).status = σ.status ∧
        (σ.setupAsync source).inCollection = σ.inCollection := by
      unfold MediaMTXCameraCoordinator.setupAsync
      dsimp only
      split
      all_goals exact ⟨rfl, rfl⟩
    refine ⟨fun _ hstatus => ?_, fun hout => ?_⟩
    · exact absurd (hmachine.1.symm.trans hstatus) hconnected.1
    · rw [hmachine.2, hin] at hout
      cases hout
  case isFalse =>
    split
    case isTrue => exact ⟨fun _ _ => σ.active_teardownAsync, fun _ _ => σ.active_teardownAsync⟩
    case isFalse hactive =>
      refine ⟨fun _ hstatus => ?_, fun hout => ?_⟩
      · by_contra hsome
        exact hactive ⟨hstatus, hsome⟩
      · rw [hin] at hout
        cases hout

theorem stays_resumeSetup {k : ℕ} (hstep : σ.resumeSetup site k = some σ') : Stays σ σ' := by
  simp only [MediaMTXCameraCoordinator.resumeSetup] at hstep
  split at hstep
  case h_1 | h_2 => cases hstep
  case h_3 =>
    cases hstep
    exact ⟨rfl, rfl, rfl, fun _ => rfl⟩
  case h_5 =>
    split at hstep
    all_goals
      cases hstep
      exact ⟨rfl, rfl, rfl, id⟩
  all_goals
    cases hstep
    exact ⟨rfl, rfl, rfl, id⟩

theorem stays_resumeTeardown {k : ℕ} (hstep : σ.resumeTeardown k = some σ') : Stays σ σ' := by
  simp only [MediaMTXCameraCoordinator.resumeTeardown] at hstep
  split at hstep
  case h_1 =>
    split at hstep
    all_goals cases hstep
    exact ⟨rfl, rfl, rfl, id⟩
  case h_2 =>
    cases hstep
    exact σ.stays_nextTrack ..
  case h_3 => cases hstep

/-- Both parts of the health check change nothing but where it is. -/
theorem exists_healthCheck (hstep : σ.beginHealthCheck = some σ' ∨
    σ.resumeHealthCheck = some σ') : ∃ phase, σ' = { σ with healthCheck := phase } := by
  rcases hstep with hstep | hstep
  · simp only [beginHealthCheck] at hstep
    split at hstep
    · obtain ⟨k, -, rfl⟩ := Option.map_eq_some_iff.mp hstep
      exact ⟨_, rfl⟩
    · split at hstep
      · split at hstep
        all_goals
          cases hstep
          exact ⟨_, rfl⟩
      · cases hstep
        exact ⟨_, rfl⟩
    · cases hstep
  · simp only [MediaMTXCameraCoordinator.resumeHealthCheck] at hstep
    split at hstep
    all_goals cases hstep
    all_goals exact ⟨_, rfl⟩

/-- Every step that meets `Keeps` keeps the invariant. -/
theorem Tidy.step (h : σ.Tidy site) (hplaced : σ.Placed) (hkeeps : σ.Keeps site e)
    (hstep : σ.perform site e = some σ') : σ'.Tidy site ∧ σ'.Placed := by
  cases e with
  | statusChange status source =>
    cases hstep
    have hstatus : Tidy site { σ with status } := h.congr rfl rfl rfl h.relay id rfl
    unfold MediaMTXCameraCoordinator.statusChange
    split
    case isTrue hchanged =>
      have hin : MediaMTXCameraCoordinator.inCollection { σ with status } = true := hchanged.1
      exact ⟨hstatus.sync source, placed_sync hin source⟩
    case isFalse hsame =>
      refine ⟨hstatus, fun hin hdisconnected => ?_, hplaced.removed⟩
      -- the status was the same
      have hold : status = σ.status := by
        by_contra hne
        exact hsame ⟨hin, hne⟩
      exact hplaced.disconnected hin (hold ▸ hdisconnected)
  | sync source =>
    simp only [MediaMTXCameraCoordinator.perform] at hstep
    split at hstep
    case isTrue hin =>
      cases hstep
      exact ⟨h.sync source, placed_sync hin source⟩
    case isFalse => cases hstep
  | remove =>
    simp only [MediaMTXCameraCoordinator.perform] at hstep
    split at hstep
    case isTrue hin =>
      cases hstep
      refine ⟨h.congr rfl rfl rfl h.relay (fun hin' => by cases hin') rfl, fun hin' => ?_,
        fun _ hremoving => ?_⟩
      · cases hin'
      · cases hremoving
    case isFalse => cases hstep
  | onMachineRemoved =>
    simp only [MediaMTXCameraCoordinator.perform] at hstep
    split at hstep
    case isTrue hremoving =>
      cases hstep
      have hremoved : Tidy site { σ with removing := false } :=
        h.congr rfl rfl rfl h.relay id rfl
      exact ⟨hremoved.teardownAsync, fun _ _ => active_teardownAsync _,
        fun _ _ => active_teardownAsync _⟩
    case isFalse => cases hstep
  | answerSetup k answer =>
    refine ⟨h.answerSetup hkeeps hstep, hplaced.stays ?_⟩
    simp only [MediaMTXCameraCoordinator.perform, MediaMTXCameraCoordinator.answerSetup] at hstep
    split at hstep
    all_goals cases hstep
    exact ⟨rfl, rfl, rfl, id⟩
  | resumeSetup k => exact ⟨h.resumeSetup hkeeps hstep, hplaced.stays (stays_resumeSetup hstep)⟩
  | publisher k j event =>
    refine ⟨h.publisher hstep, hplaced.stays ?_⟩
    obtain ⟨track, -, hphase⟩ := Option.bind_eq_some_iff.mp hstep
    obtain ⟨phase, -, rfl⟩ := Option.map_eq_some_iff.mp hphase
    exact ⟨rfl, rfl, rfl, id⟩
  | answerTeardown k removed =>
    refine ⟨h.answerTeardown hkeeps hstep, hplaced.stays ?_⟩
    simp only [MediaMTXCameraCoordinator.perform, MediaMTXCameraCoordinator.answerTeardown] at hstep
    split at hstep
    · obtain ⟨track, -, rfl⟩ := Option.map_eq_some_iff.mp hstep
      exact ⟨rfl, rfl, rfl, id⟩
    · cases hstep
  | resumeTeardown k =>
    exact ⟨h.resumeTeardown hstep, hplaced.stays (stays_resumeTeardown hstep)⟩
  | healthCheck =>
    obtain ⟨phase, rfl⟩ := σ.exists_healthCheck (.inl hstep)
    exact ⟨h.congr rfl rfl rfl h.relay id rfl, hplaced.stays ⟨rfl, rfl, rfl, id⟩⟩
  | answerHealthCheck answer =>
    refine ⟨h.answerHealthCheck hkeeps hstep, hplaced.stays ?_⟩
    obtain ⟨pathName, -, rfl⟩ := Option.map_eq_some_iff.mp hstep
    exact ⟨rfl, rfl, rfl, id⟩
  | resumeHealthCheck =>
    obtain ⟨phase, rfl⟩ := σ.exists_healthCheck (.inr hstep)
    exact ⟨h.congr rfl rfl rfl h.relay id rfl, hplaced.stays ⟨rfl, rfl, rfl, id⟩⟩
  | other relay =>
    simp only [MediaMTXCameraCoordinator.perform] at hstep
    split at hstep
    case isTrue hpaths =>
      cases hstep
      refine ⟨h.congr rfl rfl rfl (fun path hpath => h.relay path ?_) id rfl,
        hplaced.stays ⟨rfl, rfl, rfl, id⟩⟩
      refine (hpaths path ?_).mp hpath
      cases path
      all_goals simp
    case isFalse => cases hstep

/-- A run whose events meet `Keeps`. -/
abbrev ReachableKeeping (site : CameraSite) : MediaMTXCameraCoordinator → Prop :=
  Reachable (Initial site) fun σ σ' => ∃ e, σ.Keeps site e ∧ σ.perform site e = some σ'

theorem tidy_of_reachable (h : ReachableKeeping site σ) : σ.Tidy site ∧ σ.Placed := by
  refine Reachable.induct (I := fun σ => σ.Tidy site ∧ σ.Placed) ?_ ?_ h
  · exact fun σ h => ⟨tidy_initial h, fun _ _ => h.active, fun _ _ => h.active⟩
  · exact fun σ σ' _ ⟨htidy, hplaced⟩ ⟨_, hkeeps, hstep⟩ => htidy.step hplaced hkeeps hstep

/-- **Nothing is left** of the cameras of a machine that is disconnected or removed, when every task
of the run has finished, if its events meet `Keeps`. -/
theorem clean_of_settled (site : CameraSite) (σ : MediaMTXCameraCoordinator)
    (hrun : ReachableKeeping site σ) (hsettled : σ.Settled)
    (hends : σ.status = .disconnected ∨ σ.inCollection = false) : σ.Clean site := by
  obtain ⟨htidy, hplaced⟩ := tidy_of_reachable hrun
  exact htidy.clean hplaced hsettled hends

/-! ### Two cameras -/

private def oneSite : CameraSite := ⟨"X", Char.isAlphanum, fun name => name, fun name => name⟩

private def newCoordinator : MediaMTXCameraCoordinator where
  status := .disconnected
  streamingURLs := none
  crashed := ∅
  inCollection := true
  removing := false
  sessions _ := .notMade
  sessionsMade := 0
  active := none
  relay := ∅
  healthCheck := .idle

private theorem initial_newCoordinator : Initial oneSite newCoordinator where
  streamingURLs := rfl
  inCollection := rfl
  removing := rfl
  sessions _ := rfl
  active := rfl
  relay path := HashSet.notMem_empty (oneSite.pathName path)
  healthCheck := rfl

private def pullCamera : CameraSource := .pull "rtsps://X" ⟨none, none, none⟩

private def publisherCamera : CameraSource :=
  .publisher ⟨none, none, 23, 1, "1"⟩ ⟨none, none, none⟩ none none

/-- A machine with a publisher is connected and disconnected, and its teardown finishes. -/
theorem clean_of_settled_publisher : ∃ σ, ReachableKeeping oneSite σ ∧ (σ.sessions 0).tracks ≠ [] ∧
    σ.Settled ∧ σ.Clean oneSite := by
  have h₀ : ReachableKeeping oneSite newCoordinator := .refl initial_newCoordinator
  have h₁ := h₀.tail ⟨.statusChange .idle publisherCamera, trivial, rfl⟩
  have h₂ := h₁.tail ⟨.answerSetup 0 .returned, fun _ => ⟨rfl, by rintro ⟨⟩⟩, rfl⟩
  have h₃ := h₂.tail ⟨.resumeSetup 0, ⟨fun _ _ => rfl, by rintro _ ⟨⟩⟩, rfl⟩
  have h₄ := h₃.tail ⟨.publisher 0 0 .begun, trivial, rfl⟩
  have h₅ := h₄.tail ⟨.statusChange .disconnected publisherCamera, trivial, rfl⟩
  have h₆ := h₅.tail ⟨.publisher 0 0 .canceled, trivial, rfl⟩
  have h₇ := h₆.tail ⟨.resumeTeardown 0, trivial, rfl⟩
  have h₈ := h₇.tail ⟨.answerTeardown 0 true, rfl, rfl⟩
  have h₉ := h₈.tail ⟨.resumeTeardown 0, trivial, rfl⟩
  refine ⟨_, h₉, ?_, ?hsettled, clean_of_settled oneSite _ h₉ ?hsettled (.inl rfl)⟩
  · rintro ⟨⟩
  · refine ⟨rfl, fun k => ?_, fun k => ?_, rfl⟩
    all_goals
      cases k
      all_goals rfl

/-- The path of a pull camera stays at the relay. -/
theorem clean_of_settled_fails :
    ¬ ∀ σ, Reachable (Initial oneSite) (Step oneSite) σ → σ.Settled →
      (σ.status = .disconnected ∨ σ.inCollection = false) → σ.Clean oneSite := by
  intro hall
  have h₀ : Reachable (Initial oneSite) (Step oneSite) newCoordinator :=
    .refl initial_newCoordinator
  have h₁ := h₀.tail ⟨.statusChange .idle pullCamera, rfl⟩
  have h₂ := h₁.tail ⟨.answerSetup 0 .returned, rfl⟩
  have h₃ := h₂.tail ⟨.resumeSetup 0, rfl⟩
  have h₄ := h₃.tail ⟨.statusChange .disconnected pullCamera, rfl⟩
  refine (hall _ h₄ ⟨rfl, fun k => ?_, fun k => ?_, rfl⟩ (.inl rfl)).relay .pull ?_
  · cases k
    all_goals rfl
  · cases k
    all_goals rfl
  · exact (HashSet.mem_add (s := (∅ : HashSet String))).mpr (.inr rfl)

end MediaMTXCameraCoordinator

end Connect3Dp
