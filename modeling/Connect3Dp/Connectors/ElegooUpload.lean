import Connect3Dp.Connectors.ScheduledTasks
import Connect3Dp.Files.FileStore
import Connect3Dp.Runtime.Reading

/-!
# Uploading a file to an ELEGOO printer

`UploadFile` sends a file in chunks, because the printer refuses large requests. Every chunk is read
into one buffer, posted with its offset, and followed by the next one. A read may return less than
was asked for, and then the chunk is shorter.

`Chunks` says what the posted chunks have to be, and `uploadFile_faithful` that they are, however
much the reads return.
-/

namespace Connect3Dp

namespace Elegoo

/-- The form that a chunk is posted with. -/
structure UploadRequest where
  endpoint : String
  check : String
  offset : String
  totalSize : String
  uuid : String
  file : Bytes
  contentType : String
  fileName : String
  fileMD5 : String
  deriving DecidableEq

/-- What an upload gets from outside. An exception is its message. -/
structure UploadHost where
  /-- `Convert.ToHexStringLower` of the MD5 hash -/
  md5Hash : Bytes → String
  /-- `Guid.NewGuid().ToString("N")` -/
  newGuid : String
  /-- `Http.PostAsync` and `EnsureSuccessStatusCode`, after these requests -/
  postAsync : List UploadRequest → UploadRequest → Except String Unit
  refreshFileList : Except String Unit

/-- A chunk is posted. The form does not take a file without a name. -/
def UploadHost.post (host : UploadHost) (past : List UploadRequest) (request : UploadRequest) :
    Except String Unit :=
  if isNullOrWhiteSpace (some request.fileName) then
    .error ("The value cannot be an empty string or composed entirely of whitespace. " ++
      "(Parameter 'fileName')")
  else host.postAsync past request

def chunkSize : ℕ := 1 * 1024 * 1024

/-- What all chunks of an upload share. -/
structure UploadForm where
  endpoint : String
  totalSize : ℕ
  uuid : String
  fileName : String
  fileMD5 : String

def UploadForm.request (form : UploadForm) (offset : ℕ) (file : Bytes) : UploadRequest where
  endpoint := form.endpoint
  check := "0"
  offset := toString offset
  totalSize := toString form.totalSize
  uuid := form.uuid
  file
  contentType := "application/octet-stream"
  fileName := form.fileName
  fileMD5 := form.fileMD5

/-- The loop of `UploadFile`, with what has been posted. -/
structure UploadLoop (σ : Type) where
  fileStream : σ
  offset : ℕ
  buffer : Bytes
  posts : List UploadRequest

variable {σ : Type}

/-- The body of the loop. -/
def uploadRound (host : UploadHost) (stream : SeekableReader UInt8 σ) (form : UploadForm)
    (u : UploadLoop σ) : UploadLoop σ ⊕ Except String Unit × List UploadRequest :=
  if u.offset < form.totalSize then
    let bytesToRead := min chunkSize (form.totalSize - u.offset)
    let (data, fileStream) := stream.read bytesToRead u.fileStream
    let bytesRead := data.length
    -- What was in the buffer before stays behind what was read.
    let buffer := data ++ u.buffer.drop bytesRead
    let request := form.request u.offset (buffer.take bytesRead)
    match host.post u.posts request with
    | .ok _ => .inl ⟨fileStream, u.offset + bytesRead, buffer, u.posts ++ [request]⟩
    | .error message => .inr (.error message, u.posts ++ [request])
  else .inr (.ok (), u.posts)

/-- The failure of `UploadFile`. -/
def uploadFailed (message : String) : MachineOperationResult :=
  .fail ⟨some "elegoo.upload.failed", some "File Upload Failed", some message, .error, 0, default⟩

/-- `UploadFile`, for at most so many chunks: its result, and what it has posted. -/
def uploadFile (host : UploadHost) (stream : SeekableReader UInt8 σ) (fileName : String)
    (toUSB : Bool) (rounds : ℕ) (fileStream : σ) :
    Option (MachineOperationResult × List UploadRequest) := do
  let (hashed, fileStream) :=
    stream.readToEnd 4096 ((stream.remaining fileStream).length + 1) fileStream
  let form : UploadForm := {
    endpoint := if toUSB then "/uploadFile/uploadUSB" else "/uploadFile/upload"
    totalSize := stream.content.length
    uuid := host.newGuid
    fileName
    fileMD5 := host.md5Hash hashed }
  let (outcome, posts) ← runLoop (uploadRound host stream form) rounds
    ⟨stream.seek 0 fileStream, 0, List.replicate chunkSize 0, []⟩
  return match outcome >>= fun _ => host.refreshFileList with
    | .ok _ => (.ok, posts)
    | .error message => (uploadFailed message, posts)

/-! ### The chunks -/

/-- The bytes that have been posted. -/
def sentBytes (posts : List UploadRequest) : Bytes := (posts.map (·.file)).flatten

@[simp]
theorem sentBytes_append_singleton (posts : List UploadRequest) (request : UploadRequest) :
    sentBytes (posts ++ [request]) = sentBytes posts ++ request.file := by
  simp [sentBytes]

/-- The requests are chunks of the content, one after another. -/
structure Chunks (host : UploadHost) (content : Bytes) (posts : List UploadRequest) : Prop where
  offset : ∀ past request, past ++ [request] <+: posts →
    request.offset = toString (sentBytes past).length
  length : ∀ request ∈ posts, 1 ≤ request.file.length ∧ request.file.length ≤ 1048576
  totalSize : ∀ request ∈ posts, request.totalSize = toString content.length
  uuid : ∀ request ∈ posts, request.uuid = host.newGuid
  fileMD5 : ∀ request ∈ posts, request.fileMD5 = host.md5Hash content

variable {host : UploadHost} {content : Bytes} {posts : List UploadRequest}

theorem chunks_nil : Chunks host content [] := by
  refine ⟨fun past request h => ?_, fun request h => ?_, fun request h => ?_, fun request h => ?_,
    fun request h => ?_⟩
  · simp at h
  all_goals cases h

/-- What is said of all requests is said of another one, too. -/
theorem forall_mem_concat {P : UploadRequest → Prop} {request : UploadRequest}
    (h : ∀ r ∈ posts, P r) (hrequest : P request) : ∀ r ∈ posts ++ [request], P r := by
  intro r hr
  rcases List.mem_append.mp hr with hr | hr
  · exact h r hr
  · rw [List.mem_singleton.mp hr]
    exact hrequest

/-- Another chunk follows. -/
theorem Chunks.concat (h : Chunks host content posts) {form : UploadForm} {file : Bytes}
    (htotal : form.totalSize = content.length) (huuid : form.uuid = host.newGuid)
    (hmd5 : form.fileMD5 = host.md5Hash content)
    (hfile : 1 ≤ file.length ∧ file.length ≤ 1048576) :
    Chunks host content (posts ++ [form.request (sentBytes posts).length file]) where
  offset past request hpast := by
    rcases List.prefix_concat_iff.mp hpast with heq | hpast
    · obtain ⟨rfl, heq⟩ := List.append_inj' heq rfl
      cases heq
      rfl
    · exact h.offset past request hpast
  length := forall_mem_concat h.length hfile
  totalSize := forall_mem_concat h.totalSize (by rw [← htotal]; rfl)
  uuid := forall_mem_concat h.uuid huuid
  fileMD5 := forall_mem_concat h.fileMD5 hmd5

/-! ### The loop -/

/-- The form is the one of an upload of the content. -/
structure UploadForm.IsFor (form : UploadForm) (host : UploadHost) (content : Bytes) : Prop where
  totalSize : form.totalSize = content.length
  uuid : form.uuid = host.newGuid
  fileMD5 : form.fileMD5 = host.md5Hash content

/-- What holds before every round: what has been posted and what is left are the content. -/
structure Uploading (host : UploadHost) (stream : SeekableReader UInt8 σ) (u : UploadLoop σ) :
    Prop where
  chunks : Chunks host stream.content u.posts
  sent : sentBytes u.posts ++ stream.remaining u.fileStream = stream.content
  offset : u.offset = (sentBytes u.posts).length

/-- Every chunk that was posted was accepted. -/
def AllSucceed (host : UploadHost) (posts : List UploadRequest) : Prop :=
  ∀ past request, past ++ [request] <+: posts → host.post past request = .ok ()

/-- The chunks are the content. -/
structure Faithful (host : UploadHost) (content : Bytes) (posts : List UploadRequest) : Prop where
  chunks : Chunks host content posts
  sent : sentBytes posts = content

variable {stream : SeekableReader UInt8 σ} {form : UploadForm} {u u' : UploadLoop σ}

/-- **One round** posts the next chunk, and the loop ends with all of the content or with a request
that was refused. -/
theorem uploadRound_cases (hform : form.IsFor host stream.content)
    (hu : Uploading host stream u) :
    (∃ u', uploadRound host stream form u = .inl u' ∧ Uploading host stream u' ∧
      (stream.remaining u'.fileStream).length < (stream.remaining u.fileStream).length) ∨
    (∃ outcome posts, uploadRound host stream form u = .inr (outcome, posts) ∧
      (AllSucceed host posts → Faithful host stream.content posts)) := by
  have hlength : (sentBytes u.posts).length + (stream.remaining u.fileStream).length =
      stream.content.length := by rw [← List.length_append, hu.sent]
  have hoffset := hu.offset
  have htotal := hform.totalSize
  by_cases hleft : u.offset < form.totalSize
  · have hbytes : 0 < min chunkSize (form.totalSize - u.offset) := by
      rw [chunkSize]
      omega
    have hne : stream.remaining u.fileStream ≠ [] := by
      rw [← List.length_pos_iff]
      omega
    have hread := stream.read_ne_nil _ u.fileStream hbytes hne
    have hatMost := stream.length_read_le (min chunkSize (form.totalSize - u.offset)) u.fileStream
    have happend := stream.read_append (min chunkSize (form.totalSize - u.offset)) u.fileStream
    obtain ⟨data, fileStream, heq⟩ : ∃ data fileStream,
        stream.read (min chunkSize (form.totalSize - u.offset)) u.fileStream =
          (data, fileStream) := ⟨_, _, rfl⟩
    rw [heq] at hread hatMost happend
    dsimp only at hread hatMost happend
    simp only [uploadRound, if_pos hleft, heq, List.take_left]
    have hdata := List.length_pos_iff.mpr hread
    have hchunk : data.length ≤ 1048576 := hatMost.trans (min_le_left _ _)
    have hrequest := hu.chunks.concat hform.totalSize hform.uuid hform.fileMD5 ⟨hdata, hchunk⟩
    rw [← hoffset] at hrequest
    cases hpost : host.post u.posts (form.request u.offset data) with
    | ok _ =>
      refine .inl ⟨_, rfl, ⟨hrequest, ?_, ?_⟩, ?_⟩
      · dsimp only
        rw [sentBytes_append_singleton, UploadForm.request, List.append_assoc, happend]
        exact hu.sent
      · dsimp only
        rw [sentBytes_append_singleton, List.length_append, hoffset]
        rfl
      · dsimp only
        rw [← happend, List.length_append]
        omega
    | error message =>
      refine .inr ⟨_, _, rfl, fun hall => ?_⟩
      rw [hall u.posts _ (List.prefix_refl _)] at hpost
      cases hpost
  · have hnil : stream.remaining u.fileStream = [] := by
      rw [← List.length_eq_zero_iff]
      omega
    refine .inr ⟨.ok (), u.posts, by rw [uploadRound, if_neg hleft], fun _ => ⟨hu.chunks, ?_⟩⟩
    rw [← hu.sent, hnil, List.append_nil]

/-- **The loop** ends after at most as many rounds as there are bytes. -/
theorem exists_runLoop_uploadRound (hform : form.IsFor host stream.content)
    (hu : Uploading host stream u) : ∃ b : Except String Unit × List UploadRequest,
      (AllSucceed host b.2 → Faithful host stream.content b.2) ∧
      ∀ rounds, (stream.remaining u.fileStream).length < rounds →
        runLoop (uploadRound host stream form) rounds u = some b := by
  refine runLoop_of_invariant (I := Uploading host stream)
    (fun u => (stream.remaining u.fileStream).length) (fun u u' hu hbody => ?_)
    (fun u b hu hbody => ?_) hu
  · obtain ⟨u'', hbody', hu', hless⟩ | ⟨outcome, posts, hbody', -⟩ := uploadRound_cases hform hu
    all_goals
      rw [hbody'] at hbody
      cases hbody
    exact ⟨hu', hless⟩
  · obtain ⟨u'', hbody', -⟩ | ⟨outcome, posts, hbody', hposts⟩ := uploadRound_cases hform hu
    all_goals
      rw [hbody'] at hbody
      cases hbody
    exact hposts

/-- **An upload is faithful**: it ends, however much the reads return, and if every chunk that it
posts is accepted, the chunks are the content. -/
theorem uploadFile_faithful (host : UploadHost) (stream : SeekableReader UInt8 σ)
    {fileStream : σ} (hstart : stream.remaining fileStream = stream.content) (fileName : String)
    (toUSB : Bool) : ∃ result posts,
      (∀ rounds, stream.content.length < rounds →
        uploadFile host stream fileName toUSB rounds fileStream = some (result, posts)) ∧
      (AllSucceed host posts → Faithful host stream.content posts) := by
  have hhashed := stream.readToEnd_eq (by omega : 0 < 4096)
    (Nat.lt_succ_self (stream.remaining fileStream).length)
  rcases hread : stream.readToEnd 4096 ((stream.remaining fileStream).length + 1) fileStream with
    ⟨hashed, fileStream'⟩
  rw [hread, hstart] at hhashed
  let form : UploadForm := {
    endpoint := if toUSB then "/uploadFile/uploadUSB" else "/uploadFile/upload"
    totalSize := stream.content.length
    uuid := host.newGuid
    fileName
    fileMD5 := host.md5Hash hashed }
  have hform : form.IsFor host stream.content := ⟨rfl, rfl, congrArg host.md5Hash hhashed⟩
  have hinit : Uploading host stream
      ⟨stream.seek 0 fileStream', 0, List.replicate chunkSize 0, []⟩ :=
    ⟨chunks_nil, stream.remaining_seek_zero fileStream', rfl⟩
  obtain ⟨⟨outcome, posts⟩, hposts, hruns⟩ := exists_runLoop_uploadRound hform hinit
  dsimp only at hruns
  rw [stream.remaining_seek_zero] at hruns
  have hupload : ∀ rounds, stream.content.length < rounds →
      uploadFile host stream fileName toUSB rounds fileStream =
        some (match outcome >>= fun _ => host.refreshFileList with
          | .ok _ => (.ok, posts)
          | .error message => (uploadFailed message, posts)) := by
    intro rounds hrounds
    rw [uploadFile, hread]
    dsimp only
    rw [hruns rounds hrounds]
    rfl
  cases hrefresh : outcome >>= fun _ => host.refreshFileList with
  | ok _ =>
    rw [hrefresh] at hupload
    exact ⟨_, posts, hupload, hposts⟩
  | error message =>
    rw [hrefresh] at hupload
    exact ⟨_, posts, hupload, hposts⟩

/-- A printer that accepts every chunk. -/
private def accepting : UploadHost where
  md5Hash _ := "5289df737df57326fcdd22597afb1fac"
  newGuid := "5d8f2bb4c2a14b5f9a3b6a0d2f7e1c90"
  postAsync _ _ := .ok ()
  refreshFileList := .ok ()

/-- The form of an upload of three bytes. -/
private def cubeForm : UploadForm where
  endpoint := "/uploadFile/upload"
  totalSize := 3
  uuid := accepting.newGuid
  fileName := "cube.gcode"
  fileMD5 := accepting.md5Hash [1, 2, 3]

/-- Three bytes, of which a read returns at most two. -/
theorem uploadFile_faithful_cube : ∃ posts,
    uploadFile accepting (.ofList [1, 2, 3] 1) "cube.gcode" false 4 0 = some (.ok, posts) ∧
      Faithful accepting [1, 2, 3] posts := by
  have hstart : (SeekableReader.ofList [1, 2, 3] 1).remaining 0 =
      (SeekableReader.ofList [1, 2, (3 : UInt8)] 1).content := rfl
  obtain ⟨result, posts, hruns, hposts⟩ :=
    uploadFile_faithful accepting (.ofList [1, 2, 3] 1) hstart "cube.gcode" false
  have hchunks : uploadFile accepting (.ofList [1, 2, 3] 1) "cube.gcode" false 4 0 =
      some (.ok, [cubeForm.request 0 [1, 2], cubeForm.request 2 [3]]) := by decide
  cases hchunks.symm.trans (hruns 4 (by decide))
  refine ⟨_, hchunks, hposts fun past request hpast => ?_⟩
  have hmem : request ∈ [cubeForm.request 0 [1, 2], cubeForm.request 2 [3]] :=
    hpast.subset (List.mem_append_right past (List.mem_singleton_self request))
  simp only [List.mem_cons, List.not_mem_nil, or_false] at hmem
  rcases hmem with rfl | rfl
  · rfl
  · rfl

end Elegoo

end Connect3Dp
