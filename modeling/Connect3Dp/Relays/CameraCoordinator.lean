import Connect3Dp.Collections.HashSet
import Connect3Dp.State.Values
import Mathlib.Logic.Function.Basic

/-!
# The MediaMTX camera coordinator

The coordinator keeps the paths of a machine at the MediaMTX relay in step with the machine: a
status change starts `SetupAsync` or `TeardownAsync`, nobody waits for either, and a health check
registers the paths again from time to time. `MediaMTXCameraCoordinator` is its state with respect
to one machine, and a step goes from one `await` to the next. A request to the relay takes two: the
relay answers it, and the task goes on.

A session is the object that `SetupAsync` puts into `Active`. It carries here also where its setup
and its teardown are. No other setup works on a session, and no other teardown, for
only the one that takes it out of `Active` does.
-/

namespace Connect3Dp

/-! ### Cameras -/

/-- `StreamPublisherOptions`. -/
structure StreamPublisherOptions where
  maxWidth : Option Int32
  maxHeight : Option Int32
  crf : Int32
  gopSize : Int32
  framerate : String

/-- `CameraSource`. -/
inductive CameraSource
  | noCamera
  | pull (upstream : String) (spec : CameraSpec)
  | publisher (full : StreamPublisherOptions) (fullSpec : CameraSpec)
      (glance : Option StreamPublisherOptions) (glanceSpec : Option CameraSpec)

def CameraSource.isPull : CameraSource → Bool
  | pull .. => true
  | _ => false

/-- The paths of a machine. -/
inductive CameraPath
  | pull
  | full
  | glance
  deriving DecidableEq

/-- The machine's ID and what does not change: the letters and digits of Unicode, and the public
URLs of the relay. -/
structure CameraSite where
  machineID : String
  isLetterOrDigit : Char → Bool
  getWebRTCUrl : String → String
  getHlsUrl : String → String

namespace CameraSite

/-- `MakePathName`. A character outside the basic plane is two `char`s, and neither is a letter. -/
def makePathName (site : CameraSite) : String :=
  .ofList (site.machineID.toList.flatMap fun ch =>
    if 0xffff < ch.toNat then ['_', '_']
    else if site.isLetterOrDigit ch || ch = '_' || ch = '-' then [ch] else ['_'])

def pathName (site : CameraSite) : CameraPath → String
  | .pull => site.makePathName
  | .full => site.makePathName ++ "_full"
  | .glance => site.makePathName ++ "_glance"

def stream (site : CameraSite) (path : CameraPath) (spec : Option CameraSpec) : CameraStream where
  whepUrl := some (site.getWebRTCUrl (site.pathName path))
  hlsUrl := some (site.getHlsUrl (site.pathName path))
  spec

/-- The URLs of a camera whose paths are registered. -/
def streamingURLs (site : CameraSite) : CameraSource → Option MachineStreamingURLs
  | .noCamera => none
  | .pull _ spec => some ⟨site.stream .pull (some spec), none⟩
  | .publisher _ fullSpec (some _) glanceSpec =>
    some ⟨site.stream .full (some fullSpec), some (site.stream .glance glanceSpec)⟩
  | .publisher _ fullSpec none _ =>
    some ⟨site.stream .full (some fullSpec), some (site.stream .full (some fullSpec))⟩

end CameraSite

/-! ### Publishers -/

/-- Where a `RunPublisherWithRestartAsync` is. -/
inductive PublisherPhase
  /-- `Task.Run` has not begun it. -/
  | queued
  /-- In `await connection.RunRTSPCameraPublisher(...)`. -/
  | publishing
  /-- In `await Task.Delay(...)`, after an exit or a crash. -/
  | pausing
  | ended
  deriving DecidableEq

inductive PublisherEvent
  | begun
  | exited
  | crashed
  /-- A crash of which no notification can be made. -/
  | faulted
  | canceled
  | delayed

/-- `CameraTrack`. -/
structure CameraTrack where
  pathName : String
  publisher : PublisherPhase

/-- The loop of `RunPublisherWithRestartAsync`. -/
def PublisherPhase.perform (cancelled disposed : Bool) : PublisherPhase → PublisherEvent →
    Option PublisherPhase
  | .queued, .begun => some (if disposed || cancelled then .ended else .publishing)
  | .publishing, .exited | .publishing, .crashed => some .pausing
  | .publishing, .faulted => some .ended
  | .publishing, .canceled | .pausing, .canceled => if cancelled then some .ended else none
  | .pausing, .delayed => some (if cancelled then .ended else .publishing)
  | _, _ => none

/-! ### Sessions -/

/-- An awaited request that registers a path. -/
inductive RelayCall
  | pending
  | returned
  | raised
  deriving DecidableEq

/-- How the relay answers one. A request that raises may have registered the path. -/
inductive RelayAnswer
  | returned
  | raised (registered : Bool)

namespace RelayAnswer

def call : RelayAnswer → RelayCall
  | returned => .returned
  | raised _ => .raised

def registers : RelayAnswer → Bool
  | returned => true
  | raised registered => registered

end RelayAnswer

/-- Where a `SetupAsync` is. -/
inductive SetupPhase
  /-- In `await Relay.AddPullPath(...)` or `await Relay.AddPublishPath(...)`. -/
  | adding (path : CameraPath) (call : RelayCall)
  | finished

/-- Where a `TeardownAsync` is. `track` is the position of its enumerator, and `version` the number
of the tracks when it was made. -/
inductive TeardownPhase
  | notStarted
  /-- In `await track.PublisherTask`. -/
  | awaiting (track version : ℕ)
  /-- In `await Relay.RemovePath(track.PathName)`. -/
  | removing (track version : ℕ)
  /-- The relay has answered. -/
  | removed (track version : ℕ)
  | finished
  /-- The enumerator raised: the tracks were modified. -/
  | faulted
  deriving DecidableEq

def TeardownPhase.isRunning : TeardownPhase → Bool
  | awaiting .. | removing .. | removed .. => true
  | _ => false

/-- `CameraSession`. -/
structure CameraSession where
  source : CameraSource
  cancelled : Bool
  disposed : Bool
  tracks : List CameraTrack
  setup : SetupPhase
  teardown : TeardownPhase

namespace CameraSession

/-- A session that was not made. -/
def notMade : CameraSession := ⟨.noCamera, false, false, [], .finished, .notStarted⟩

/-- The session that a setup begins with. -/
def begun (source : CameraSource) (path : CameraPath) : CameraSession :=
  ⟨source, false, false, [], .adding path .pending, .notStarted⟩

/-- The path of a track, with its publisher started. -/
def addTrack (S : CameraSession) (pathName : String) : CameraSession :=
  { S with tracks := S.tracks ++ [⟨pathName, .queued⟩] }

end CameraSession

/-- Where a pass of `RunHealthCheckAsync` is with the machine. -/
inductive HealthCheckPhase
  | idle
  /-- The session is in the snapshot of `Active`. -/
  | snapshot (session : ℕ)
  | addingPull (session : ℕ) (call : RelayCall)
  | addingTrack (session track version : ℕ) (call : RelayCall)
  deriving DecidableEq

/-! ### The coordinator -/

/-- A machine, its sessions in the order in which they were made, the paths at the relay and the
health check. `crashed` are the paths with a crash notification. -/
structure MediaMTXCameraCoordinator where
  status : MachineStatus
  streamingURLs : Option MachineStreamingURLs
  crashed : HashSet String
  inCollection : Bool
  /-- `Remove` has taken the machine out of the collection and not yet raised its event. -/
  removing : Bool
  sessions : ℕ → CameraSession
  sessionsMade : ℕ
  active : Option ℕ
  relay : HashSet String
  healthCheck : HealthCheckPhase

inductive CameraEvent
  | statusChange (status : MachineStatus) (source : CameraSource)
  /-- `StartAsync` and `OnMachineAdded`. -/
  | sync (source : CameraSource)
  | remove
  | onMachineRemoved
  | answerSetup (session : ℕ) (answer : RelayAnswer)
  | resumeSetup (session : ℕ)
  | publisher (session track : ℕ) (event : PublisherEvent)
  | answerTeardown (session : ℕ) (removed : Bool)
  | resumeTeardown (session : ℕ)
  | healthCheck
  | answerHealthCheck (answer : RelayAnswer)
  | resumeHealthCheck
  /-- The paths of other machines change. -/
  | other (relay : HashSet String)

namespace MediaMTXCameraCoordinator

def setSession (σ : MediaMTXCameraCoordinator) (k : ℕ) (S : CameraSession) :
    MediaMTXCameraCoordinator :=
  { σ with sessions := Function.update σ.sessions k S }

/-- `SetupAsync`, up to what it awaits first. -/
def setupAsync (σ : MediaMTXCameraCoordinator) (source : CameraSource) :
    MediaMTXCameraCoordinator :=
  let begin (path : CameraPath) : MediaMTXCameraCoordinator :=
    { σ.setSession σ.sessionsMade (.begun source path) with
      sessionsMade := σ.sessionsMade + 1, active := some σ.sessionsMade }
  match σ.active, source with
  | none, .pull .. => begin .pull
  | none, .publisher .. => begin .full
  | _, _ => σ

/-- The end of `SetupAsync`. -/
def finishSetup (site : CameraSite) (σ : MediaMTXCameraCoordinator) (k : ℕ) (S : CameraSession) :
    MediaMTXCameraCoordinator :=
  { σ.setSession k { S with setup := .finished } with
    streamingURLs := site.streamingURLs S.source }

/-- The `catch` of `SetupAsync`, which takes out of `Active` whatever is there. -/
def catchSetup (σ : MediaMTXCameraCoordinator) (k : ℕ) : MediaMTXCameraCoordinator :=
  { σ.setSession k { σ.sessions k with setup := .finished, cancelled := true } with active := none }

/-- `SetupAsync` goes on from what it awaits. -/
def resumeSetup (site : CameraSite) (σ : MediaMTXCameraCoordinator) (k : ℕ) :
    Option MediaMTXCameraCoordinator :=
  let S := σ.sessions k
  match S.setup with
  | .adding _ .pending | .finished => none
  | .adding _ .raised => some (σ.catchSetup k)
  | .adding .pull .returned => some (σ.finishSetup site k S)
  | .adding .full .returned =>
    let S := S.addTrack (site.pathName .full)
    match S.source with
    | .publisher _ _ (some _) _ =>
      some (σ.setSession k { S with setup := .adding .glance .pending })
    | _ => some (σ.finishSetup site k S)
  | .adding .glance .returned =>
    some (σ.finishSetup site k (S.addTrack (site.pathName .glance)))

/-- The end of `TeardownAsync`. -/
def finishTeardown (σ : MediaMTXCameraCoordinator) (k : ℕ) : MediaMTXCameraCoordinator :=
  let S := σ.sessions k
  { σ.setSession k { S with teardown := .finished, disposed := true } with
    crashed := if σ.inCollection then
        S.tracks.foldl (fun crashed track => crashed.remove track.pathName) σ.crashed
      else σ.crashed
    streamingURLs := if σ.inCollection then none else σ.streamingURLs }

/-- The head of the loop of `TeardownAsync`. -/
def nextTrack (σ : MediaMTXCameraCoordinator) (k track version : ℕ) : MediaMTXCameraCoordinator :=
  let S := σ.sessions k
  if S.tracks.length ≠ version then σ.setSession k { S with teardown := .faulted }
  else if track < version then σ.setSession k { S with teardown := .awaiting track version }
  else σ.finishTeardown k

/-- `TeardownAsync`, up to what it awaits first. -/
def teardownAsync (σ : MediaMTXCameraCoordinator) : MediaMTXCameraCoordinator :=
  match σ.active with
  | none => σ
  | some k =>
    nextTrack { σ.setSession k { σ.sessions k with cancelled := true } with active := none } k 0
      (σ.sessions k).tracks.length

/-- `TeardownAsync` goes on from what it awaits. -/
def resumeTeardown (σ : MediaMTXCameraCoordinator) (k : ℕ) : Option MediaMTXCameraCoordinator :=
  let S := σ.sessions k
  match S.teardown with
  | .awaiting track version =>
    if S.tracks[track]?.map CameraTrack.publisher = some .ended then
      some (σ.setSession k { S with teardown := .removing track version })
    else none
  | .removed track version => some (σ.nextTrack k (track + 1) version)
  | _ => none

/-- `Sync`. -/
def sync (σ : MediaMTXCameraCoordinator) (source : CameraSource) : MediaMTXCameraCoordinator :=
  if σ.status ≠ .disconnected ∧ σ.active = none then σ.setupAsync source
  else if σ.status = .disconnected ∧ σ.active ≠ none then σ.teardownAsync
  else σ

/-- `OnStateChange`. -/
def statusChange (σ : MediaMTXCameraCoordinator) (status : MachineStatus) (source : CameraSource) :
    MediaMTXCameraCoordinator :=
  if σ.inCollection = true ∧ status ≠ σ.status then ({ σ with status }).sync source
  else { σ with status }

/-! ### Requests and publishers -/

def register (σ : MediaMTXCameraCoordinator) (pathName : String) (answer : RelayAnswer) :
    MediaMTXCameraCoordinator :=
  { σ with relay := if answer.registers then σ.relay.add pathName else σ.relay }

/-- The relay answers the request of a setup. -/
def answerSetup (site : CameraSite) (σ : MediaMTXCameraCoordinator) (k : ℕ) (answer : RelayAnswer) :
    Option MediaMTXCameraCoordinator :=
  let S := σ.sessions k
  match S.setup with
  | .adding path .pending =>
    some ((σ.setSession k { S with setup := .adding path answer.call }).register
      (site.pathName path) answer)
  | _ => none

/-- The relay answers the request of a teardown. An exception is logged. -/
def answerTeardown (σ : MediaMTXCameraCoordinator) (k : ℕ) (removed : Bool) :
    Option MediaMTXCameraCoordinator :=
  let S := σ.sessions k
  match S.teardown with
  | .removing track version =>
    S.tracks[track]?.map fun t =>
      { σ.setSession k { S with teardown := .removed track version } with
        relay := if removed then σ.relay.remove t.pathName else σ.relay }
  | _ => none

/-- A publisher goes on. -/
def publisher (σ : MediaMTXCameraCoordinator) (k j : ℕ) (e : PublisherEvent) :
    Option MediaMTXCameraCoordinator :=
  let S := σ.sessions k
  S.tracks[j]?.bind fun track =>
    (track.publisher.perform S.cancelled S.disposed e).map fun phase =>
      { σ.setSession k { S with tracks := S.tracks.set j { track with publisher := phase } } with
        crashed :=
          match e with
          | .exited => σ.crashed.remove track.pathName
          | .crashed => σ.crashed.add track.pathName
          | _ => σ.crashed }

/-! ### The health check -/

/-- The loop over the tracks of a session. -/
def checkTrack (σ : MediaMTXCameraCoordinator) (k track version : ℕ) :
    MediaMTXCameraCoordinator :=
  { σ with healthCheck :=
      if (σ.sessions k).tracks.length ≠ version then .idle
      else if track < version then .addingTrack k track version .pending
      else .idle }

/-- A pass takes its snapshot, or gets to the machine. -/
def beginHealthCheck (σ : MediaMTXCameraCoordinator) : Option MediaMTXCameraCoordinator :=
  match σ.healthCheck with
  | .idle => σ.active.map fun k => { σ with healthCheck := .snapshot k }
  | .snapshot k =>
    if σ.inCollection then
      match (σ.sessions k).source with
      | .pull .. => some { σ with healthCheck := .addingPull k .pending }
      | .publisher .. => some (σ.checkTrack k 0 (σ.sessions k).tracks.length)
      | .noCamera => some { σ with healthCheck := .idle }
    else some { σ with healthCheck := .idle }
  | _ => none

/-- The path of the health check's request. -/
def checkedPath (site : CameraSite) (σ : MediaMTXCameraCoordinator) : Option String :=
  match σ.healthCheck with
  | .addingPull _ .pending => some (site.pathName .pull)
  | .addingTrack k track _ .pending => (σ.sessions k).tracks[track]?.map CameraTrack.pathName
  | _ => none

/-- The relay answers the request of the health check. -/
def answerHealthCheck (site : CameraSite) (σ : MediaMTXCameraCoordinator) (answer : RelayAnswer) :
    Option MediaMTXCameraCoordinator :=
  (σ.checkedPath site).map fun pathName =>
    { σ.register pathName answer with
      healthCheck :=
        match σ.healthCheck with
        | .addingPull k _ => .addingPull k answer.call
        | .addingTrack k track version _ => .addingTrack k track version answer.call
        | phase => phase }

/-- The health check goes on. An exception ends its work on the machine. -/
def resumeHealthCheck (σ : MediaMTXCameraCoordinator) : Option MediaMTXCameraCoordinator :=
  match σ.healthCheck with
  | .addingPull _ .returned | .addingPull _ .raised | .addingTrack _ _ _ .raised =>
    some { σ with healthCheck := .idle }
  | .addingTrack k track version .returned => some (σ.checkTrack k (track + 1) version)
  | _ => none

/-! ### Runs -/

/-- What an event does, if it can happen. -/
def perform (site : CameraSite) (σ : MediaMTXCameraCoordinator) :
    CameraEvent → Option MediaMTXCameraCoordinator
  | .statusChange status source => some (σ.statusChange status source)
  | .sync source => if σ.inCollection then some (σ.sync source) else none
  | .remove =>
    if σ.inCollection then some { σ with inCollection := false, removing := true } else none
  | .onMachineRemoved =>
    if σ.removing then some ({ σ with removing := false }).teardownAsync else none
  | .answerSetup k answer => σ.answerSetup site k answer
  | .resumeSetup k => σ.resumeSetup site k
  | .publisher k j e => σ.publisher k j e
  | .answerTeardown k removed => σ.answerTeardown k removed
  | .resumeTeardown k => σ.resumeTeardown k
  | .healthCheck => σ.beginHealthCheck
  | .answerHealthCheck answer => σ.answerHealthCheck site answer
  | .resumeHealthCheck => σ.resumeHealthCheck
  | .other relay =>
    if ∀ path ∈ [CameraPath.pull, .full, .glance],
        (site.pathName path ∈ relay ↔ site.pathName path ∈ σ.relay) then some { σ with relay }
    else none

/-- The machine is in the collection, has no session, and none of its paths is at the relay. -/
structure Initial (site : CameraSite) (σ : MediaMTXCameraCoordinator) : Prop where
  streamingURLs : σ.streamingURLs = none
  inCollection : σ.inCollection = true
  removing : σ.removing = false
  sessions : ∀ k, σ.sessions k = .notMade
  active : σ.active = none
  relay : ∀ path, site.pathName path ∉ σ.relay
  healthCheck : σ.healthCheck = .idle

/-- All started tasks have finished. -/
structure Settled (σ : MediaMTXCameraCoordinator) : Prop where
  removing : σ.removing = false
  setup : ∀ k, (σ.sessions k).setup = .finished
  teardown : ∀ k, (σ.sessions k).teardown.isRunning = false
  healthCheck : σ.healthCheck = .idle

/-- The relay has none of the machine's paths, no publisher runs, and the machine has no URLs if it
is still in the collection. -/
structure Clean (site : CameraSite) (σ : MediaMTXCameraCoordinator) : Prop where
  relay : ∀ path, site.pathName path ∉ σ.relay
  publishers : ∀ k, ∀ track ∈ (σ.sessions k).tracks, track.publisher = .ended
  streamingURLs : σ.inCollection = true → σ.streamingURLs = none

end MediaMTXCameraCoordinator

end Connect3Dp
