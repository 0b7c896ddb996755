import Connect3Dp.Builder.Faulting
import Connect3Dp.Files.FileStore
import Connect3Dp.Runtime.Reading

/-!
# The camera of the smaller Bambu Lab printers

`BBLEspLANCameraStreamer` reads frames from a TLS stream: sixteen bytes, of which the first four say
how many bytes of a JPEG follow. The stream returns as much as has arrived, so both parts are
collected by `FillBuffer`, and its end ends `ReadLoop`.

The size of a frame is any number of 32 bits, and the longest array of bytes is a little shorter
than the largest of them. A frame that does not fit into an array ends the loop as well, wherever
the stream is then. `readLoop_exact_iff` says that this is all that can go wrong: frames that fit
come out as they were sent, however they arrive, and a frame that is cut off does not come out.
-/

namespace Connect3Dp

namespace BBLEspLANCameraStreamer

variable {σ : Type} (stream : Reader UInt8 σ)

/-- `FillBuffer`, where the buffer has been filled up to here. It raises an `EndOfStreamException`
at the end of the stream. -/
def fillBuffer (length : ℕ) (buffer : Bytes) (s : σ) : Except Fault Bytes × σ :=
  if buffer.length < length then
    match stream.read (length - buffer.length) s with
    | ([], s') => (.error .io, s')
    | (b :: data, s') => fillBuffer length (buffer ++ b :: data) s'
  else (.ok buffer, s)
termination_by length - buffer.length
decreasing_by
  rw [List.length_append, List.length_cons]
  omega

/-- **What `FillBuffer` does**: it takes from the stream what is missing, or all that is left if
that is not enough. -/
theorem fillBuffer_cases {length : ℕ} {buffer : Bytes} (hbuffer : buffer.length ≤ length) (s : σ) :
    (∃ data s', fillBuffer stream length buffer s = (.ok (buffer ++ data), s') ∧
      data ++ stream.remaining s' = stream.remaining s ∧ buffer.length + data.length = length) ∨
    (∃ s', fillBuffer stream length buffer s = (.error .io, s') ∧ stream.remaining s' = [] ∧
      buffer.length + (stream.remaining s).length < length) := by
  fun_induction fillBuffer stream length buffer s with
  | case1 buffer s hless s' hread =>
    have happend := stream.read_append (length - buffer.length) s
    have hend := stream.read_eq_nil_iff (by omega : 0 < length - buffer.length) s
    rw [hread] at happend hend
    have hnil := hend.mp rfl
    rw [hnil] at happend
    exact .inr ⟨s', rfl, happend, by rw [hnil, List.length_nil]; omega⟩
  | case2 buffer s hless b data s' hread ih =>
    have happend := stream.read_append (length - buffer.length) s
    have hatMost := stream.length_read_le (length - buffer.length) s
    rw [hread] at happend hatMost
    dsimp only at happend hatMost
    have hlength : (buffer ++ b :: data).length = buffer.length + (b :: data).length :=
      List.length_append
    obtain ⟨data', s'', hfill, hleft, hfull⟩ | ⟨s'', hfill, hnil, hshort⟩ := ih (by omega)
    · refine .inl ⟨b :: data ++ data', s'', ?_, ?_, ?_⟩
      · rw [hfill, List.append_assoc]
      · rw [List.append_assoc, hleft, happend]
      · rw [List.length_append]
        omega
    · refine .inr ⟨s'', hfill, hnil, ?_⟩
      rw [← happend, List.length_append]
      omega
  | case3 buffer s hless =>
    exact .inl ⟨[], s, by rw [List.append_nil], rfl, by rw [List.length_nil]; omega⟩

variable {stream} {length : ℕ} {data rest : Bytes} {s s' : σ}

theorem append_remaining_of_fillBuffer (h : fillBuffer stream length [] s = (.ok data, s')) :
    data ++ stream.remaining s' = stream.remaining s ∧ data.length = length := by
  obtain ⟨data', s'', hfill, hleft, hfull⟩ | ⟨s'', hfill, -⟩ :=
    fillBuffer_cases stream (List.length_nil.le.trans length.zero_le) s
  · rw [hfill, List.nil_append] at h
    cases h
    rw [List.length_nil, Nat.zero_add] at hfull
    exact ⟨hleft, hfull⟩
  · rw [hfill] at h
    cases h

/-- The buffer is filled with what comes first. -/
theorem exists_fillBuffer_of_append (hs : stream.remaining s = data ++ rest)
    (hlength : data.length = length) : ∃ s', fillBuffer stream length [] s = (.ok data, s') ∧
      stream.remaining s' = rest := by
  obtain ⟨data', s', hfill, hleft, hfull⟩ | ⟨s', -, -, hshort⟩ :=
    fillBuffer_cases stream (List.length_nil.le.trans length.zero_le) s
  · rw [List.length_nil, Nat.zero_add] at hfull
    rw [hs] at hleft
    obtain ⟨rfl, hrest⟩ := List.append_inj hleft (hfull.trans hlength.symm)
    exact ⟨s', hfill, hrest⟩
  · rw [hs, List.length_nil, List.length_append] at hshort
    omega

/-- A stream that ends before the buffer is full. -/
theorem exists_fillBuffer_of_short (hshort : (stream.remaining s).length < length) :
    ∃ s', fillBuffer stream length [] s = (.error .io, s') ∧ stream.remaining s' = [] := by
  obtain ⟨data, s', -, hleft, hfull⟩ | ⟨s', hfill, hnil, -⟩ :=
    fillBuffer_cases stream (List.length_nil.le.trans length.zero_le) s
  · rw [← hleft, List.length_append] at hshort
    rw [List.length_nil] at hfull
    omega
  · exact ⟨s', hfill, hnil⟩

/-! ### The frames -/

/-- `BitConverter.ToInt32(header, 0)`. -/
def toInt32 (header : Bytes) : Int32 :=
  (UInt32.ofNat ((header.take 4).foldr (fun b n => b.toNat + 256 * n) 0)).toInt32

variable (stream)

/-- `Array.MaxLength`. -/
def maxLength : ℕ := 0x7FFFFFC7

/-- `new byte[length]`, of which only the length matters: what the buffer holds is written before it
is read. A length above `Array.MaxLength` raises an `OutOfMemoryException`. -/
def newByteArray (length : ℕ) : Except Fault ℕ :=
  if length ≤ maxLength then .ok length else .error .outOfMemory

/-- `ReadLoop`, as long as it is not cancelled: what it raises `OnJPEG` with, and the exception that
it ends with. -/
def readLoop (s : σ) : List Bytes × Fault × σ :=
  match _hheader : fillBuffer stream 16 [] s with
  | (.error f, s₁) => ([], f, s₁)
  | (.ok header, s₁) =>
    let frameSize := toInt32 header
    if frameSize ≤ 0 then readLoop s₁
    else
      match newByteArray frameSize.toNatClampNeg with
      | .error f => ([], f, s₁)
      | .ok length =>
        match _hjpeg : fillBuffer stream length [] s₁ with
        | (.error f, s₂) => ([], f, s₂)
        | (.ok jpegBuffer, s₂) =>
          let rest := readLoop s₂
          (jpegBuffer :: rest.1, rest.2)
termination_by (stream.remaining s).length
decreasing_by
  · obtain ⟨hleft, hlength⟩ := append_remaining_of_fillBuffer _hheader
    rw [← hleft, List.length_append]
    omega
  · obtain ⟨hleft, hlength⟩ := append_remaining_of_fillBuffer _hheader
    obtain ⟨hleft', -⟩ := append_remaining_of_fillBuffer _hjpeg
    rw [← hleft, ← hleft', List.length_append, List.length_append]
    omega

/-- A frame: a header, and as many bytes as it says if that is a positive number. -/
structure Frame where
  header : Bytes
  payload : Bytes
  length_header : header.length = 16
  length_payload : payload.length = (toInt32 header).toNatClampNeg

def Frame.bytes (frame : Frame) : Bytes := frame.header ++ frame.payload

/-- The frame has something to show. -/
def Frame.isShown (frame : Frame) : Bool := 0 < toInt32 frame.header

/-- The bytes are the beginning of a frame. -/
def CutOff (rest : Bytes) : Prop := ∃ frame : Frame, rest <+: frame.bytes ∧ rest ≠ frame.bytes

variable {stream} {frame : Frame}

/-- The loop without the bookkeeping for its end. -/
theorem readLoop_eq (s : σ) : readLoop stream s =
    match fillBuffer stream 16 [] s with
    | (.error f, s₁) => ([], f, s₁)
    | (.ok header, s₁) =>
      if toInt32 header ≤ 0 then readLoop stream s₁
      else
        match newByteArray (toInt32 header).toNatClampNeg with
        | .error f => ([], f, s₁)
        | .ok length =>
          match fillBuffer stream length [] s₁ with
          | (.error f, s₂) => ([], f, s₂)
          | (.ok jpegBuffer, s₂) =>
            (jpegBuffer :: (readLoop stream s₂).1, (readLoop stream s₂).2) := by
  rw [readLoop]
  split
  · rename_i hheader
    rw [hheader]
  · rename_i hheader
    rw [hheader]
    dsimp only
    cases newByteArray (toInt32 _).toNatClampNeg with
    | error f => rfl
    | ok length =>
      dsimp only
      split
      · rfl
      · split
        · rename_i hjpeg
          rw [hjpeg]
        · rename_i hjpeg
          rw [hjpeg]

/-- The loop ends where there is no header. -/
theorem readLoop_of_no_header {f : Fault} (h : fillBuffer stream 16 [] s = (.error f, s')) :
    readLoop stream s = ([], f, s') := by
  rw [readLoop_eq, h]

/-- The loop skips a frame without a payload. -/
theorem readLoop_of_empty {header : Bytes} (h : fillBuffer stream 16 [] s = (.ok header, s'))
    (hsize : toInt32 header ≤ 0) : readLoop stream s = readLoop stream s' := by
  rw [readLoop_eq, h]
  exact if_pos hsize

section Payload

variable {header : Bytes} {s₁ : σ} (h : fillBuffer stream 16 [] s = (.ok header, s₁))
  (hsize : ¬ toInt32 header ≤ 0)
include h hsize

/-- The loop ends at a frame that does not fit into an array. -/
theorem readLoop_of_long (hlong : maxLength < (toInt32 header).toNatClampNeg) :
    readLoop stream s = ([], .outOfMemory, s₁) := by
  rw [readLoop_eq, h]
  dsimp only
  rw [if_neg hsize, newByteArray, if_neg (Nat.not_le.mpr hlong)]

variable (hfits : (toInt32 header).toNatClampNeg ≤ maxLength)
include hfits

/-- The loop ends in the middle of a payload. -/
theorem readLoop_of_no_payload {f : Fault}
    (hpayload : fillBuffer stream (toInt32 header).toNatClampNeg [] s₁ = (.error f, s')) :
    readLoop stream s = ([], f, s') := by
  rw [readLoop_eq, h]
  dsimp only
  rw [if_neg hsize, newByteArray, if_pos hfits]
  dsimp only
  rw [hpayload]

/-- The loop shows a payload. -/
theorem readLoop_of_payload {jpegBuffer : Bytes}
    (hpayload : fillBuffer stream (toInt32 header).toNatClampNeg [] s₁ = (.ok jpegBuffer, s')) :
    readLoop stream s = (jpegBuffer :: (readLoop stream s').1, (readLoop stream s').2) := by
  rw [readLoop_eq, h]
  dsimp only
  rw [if_neg hsize, newByteArray, if_pos hfits]
  dsimp only
  rw [hpayload]

end Payload

/-- A frame without a payload is its header. -/
theorem Frame.payload_eq_nil (hsize : toInt32 frame.header ≤ 0) : frame.payload = [] := by
  have hlength := Int32.le_iff_toInt_le.mp hsize
  rw [Int32.toInt_zero] at hlength
  rw [← List.length_eq_zero_iff, frame.length_payload, Int32.toNatClampNeg]
  omega

theorem Frame.isShown_eq_true_iff : frame.isShown = true ↔ ¬ toInt32 frame.header ≤ 0 := by
  rw [isShown, decide_eq_true_iff, Int32.not_le]

/-- The array for the payload of a frame can be made. -/
def Frame.Fits (frame : Frame) : Prop := (toInt32 frame.header).toNatClampNeg ≤ maxLength

/-- **One frame** that fits is shown if it has something to show, and then come the others. -/
theorem readLoop_frame (hs : stream.remaining s = frame.bytes ++ rest) (hfits : frame.Fits) :
    ∃ s', stream.remaining s' = rest ∧ readLoop stream s =
      ((if frame.isShown then [frame.payload] else []) ++ (readLoop stream s').1,
        (readLoop stream s').2) := by
  rw [Frame.bytes, List.append_assoc] at hs
  obtain ⟨s₁, hheader, hs₁⟩ := exists_fillBuffer_of_append hs frame.length_header
  by_cases hsize : toInt32 frame.header ≤ 0
  · rw [Frame.payload_eq_nil hsize, List.nil_append] at hs₁
    refine ⟨s₁, hs₁, ?_⟩
    rw [readLoop_of_empty hheader hsize, if_neg fun h => Frame.isShown_eq_true_iff.mp h hsize]
    rfl
  · obtain ⟨s₂, hpayload, hs₂⟩ := exists_fillBuffer_of_append hs₁ frame.length_payload
    refine ⟨s₂, hs₂, ?_⟩
    rw [readLoop_of_payload hheader hsize hfits hpayload,
      if_pos (Frame.isShown_eq_true_iff.mpr hsize)]
    rfl

/-- A header that says more than fits ends the loop before the payload is read. -/
theorem readLoop_of_not_fits {header : Bytes} (hs : stream.remaining s = header ++ rest)
    (hheader : header.length = 16) (hlong : maxLength < (toInt32 header).toNatClampNeg) :
    ∃ s', readLoop stream s = ([], .outOfMemory, s') ∧ stream.remaining s' = rest := by
  obtain ⟨s₁, hfill, hs₁⟩ := exists_fillBuffer_of_append hs hheader
  refine ⟨s₁, readLoop_of_long hfill (fun hsize => ?_) hlong, hs₁⟩
  have hint := Int32.le_iff_toInt_le.mp hsize
  rw [Int32.toInt_zero] at hint
  rw [Int32.toNatClampNeg] at hlong
  omega

/-- The bytes that say how long a frame is are the first of its header. -/
theorem toInt32_append {header : Bytes} (hheader : header.length = 16) (data : Bytes) :
    toInt32 (header ++ data) = toInt32 header := by
  rw [toInt32, toInt32, List.take_append_of_le_length (by omega)]

/-- If the bytes hold a header, the array for what it says can be made. -/
def Fits (bytes : Bytes) : Prop :=
  16 ≤ bytes.length → (toInt32 bytes).toNatClampNeg ≤ maxLength

/-- The beginning of a frame, with its header and without all of its payload. -/
theorem CutOff.exists_header (hrest : CutOff rest) (hlength : 16 ≤ rest.length) :
    ∃ header begun, rest = header ++ begun ∧ header.length = 16 ∧
      begun.length < (toInt32 header).toNatClampNeg := by
  obtain ⟨frame, ⟨missing, hmissing⟩, hne⟩ := hrest
  have hlost : missing ≠ [] := by
    rintro rfl
    exact hne ((List.append_nil _).symm.trans hmissing)
  have hsum := congrArg List.length hmissing
  rw [Frame.bytes, List.length_append, List.length_append, frame.length_header] at hsum
  have hpos := List.length_pos_iff.mpr hlost
  have hprefix : frame.header <+: rest :=
    List.prefix_of_prefix_length_le (List.prefix_append frame.header frame.payload)
      ⟨missing, hmissing⟩ (by rw [frame.length_header]; omega)
  obtain ⟨begun, rfl⟩ := hprefix
  rw [List.length_append, frame.length_header] at hsum
  have hpayload := frame.length_payload
  exact ⟨frame.header, begun, rfl, frame.length_header, by omega⟩

/-- **The end**: of a frame that is cut off and fits, nothing is shown. -/
theorem readLoop_of_cutOff (hs : CutOff (stream.remaining s)) (hfits : Fits (stream.remaining s)) :
    ∃ s', readLoop stream s = ([], .io, s') ∧ stream.remaining s' = [] := by
  by_cases hshort : (stream.remaining s).length < 16
  · obtain ⟨s', hfill, hnil⟩ := exists_fillBuffer_of_short hshort
    exact ⟨s', readLoop_of_no_header hfill, hnil⟩
  · -- The header is there, and the payload is not.
    obtain ⟨header, begun, hbegun, hlength, hless⟩ := hs.exists_header (Nat.not_lt.mp hshort)
    obtain ⟨s₁, hheader, hs₁⟩ := exists_fillBuffer_of_append hbegun hlength
    have hsize : ¬ toInt32 header ≤ 0 := by
      intro hsize
      have hint := Int32.le_iff_toInt_le.mp hsize
      rw [Int32.toInt_zero] at hint
      rw [Int32.toNatClampNeg] at hless
      omega
    have hmost := hfits (Nat.not_lt.mp hshort)
    rw [hbegun, toInt32_append hlength] at hmost
    rw [← hs₁] at hless
    obtain ⟨s', hfill, hnil⟩ := exists_fillBuffer_of_short hless
    exact ⟨s', readLoop_of_no_payload hheader hsize hmost hfill, hnil⟩

/-! ### The law -/

/-- The loop shows each of these frames that has something to show, once and in order, and ends at
the end of the stream. -/
def Deframes (stream : Reader UInt8 σ) (s : σ) (frames : List Frame) : Prop :=
  ∃ s', readLoop stream s = ((frames.filter Frame.isShown).map Frame.payload, .io, s') ∧
    stream.remaining s' = []

/-- A frame that fits is deframed just when what comes after it is. -/
theorem deframes_cons_iff {frames : List Frame} (hs : stream.remaining s = frame.bytes ++ rest)
    (hfits : frame.Fits) : ∃ s', stream.remaining s' = rest ∧
      (Deframes stream s (frame :: frames) ↔ Deframes stream s' frames) := by
  obtain ⟨s', hs', hframe⟩ := readLoop_frame hs hfits
  refine ⟨s', hs', exists_congr fun s'' => and_congr_left fun _ => ?_⟩
  generalize readLoop stream s' = result at hframe ⊢
  obtain ⟨shown, f, s₁⟩ := result
  rw [hframe, List.filter_cons]
  cases frame.isShown with
  | true =>
    rw [if_pos rfl, if_pos rfl, List.map_cons, List.singleton_append, Prod.mk.injEq,
      Prod.mk.injEq, List.cons.injEq, and_iff_right rfl, Prod.mk.injEq, Prod.mk.injEq]
  | false =>
    rw [if_neg Bool.false_ne_true, if_neg Bool.false_ne_true, List.nil_append]

/-- **The frames come out as they were sent**, however the stream is read: every frame with a
payload once and in order, and nothing of a frame that is cut off, up to the end of the stream. This
is so just when no header of the stream says more than the length that an array can have. -/
theorem readLoop_exact_iff (stream : Reader UInt8 σ) {s : σ} {frames : List Frame} {rest : Bytes}
    (hs : stream.remaining s = (frames.map Frame.bytes).flatten ++ rest) (hrest : CutOff rest) :
    Deframes stream s frames ↔ (∀ frame ∈ frames, frame.Fits) ∧ Fits rest := by
  induction frames generalizing s with
  | nil =>
    rw [List.map_nil, List.flatten_nil, List.nil_append] at hs
    rw [and_iff_right (List.forall_mem_nil Frame.Fits)]
    refine ⟨fun h hlength => ?_, fun hfits => ?_⟩
    · -- A header that says more than fits would have ended the loop in another way.
      by_contra hlong
      obtain ⟨s', hrun, -⟩ := h
      obtain ⟨header, begun, rfl, hheader, -⟩ := hrest.exists_header hlength
      rw [toInt32_append hheader] at hlong
      obtain ⟨s'', hrun', -⟩ := readLoop_of_not_fits hs hheader (Nat.not_le.mp hlong)
      rw [hrun'] at hrun
      cases hrun
    · rw [← hs] at hrest hfits
      exact readLoop_of_cutOff hrest hfits
  | cons frame frames ih =>
    rw [List.map_cons, List.flatten_cons, List.append_assoc] at hs
    rw [List.forall_mem_cons, and_assoc]
    by_cases hfits : frame.Fits
    · obtain ⟨s', hs', hiff⟩ := deframes_cons_iff hs hfits
      rw [hiff, ih hs', and_iff_right hfits]
    · refine iff_of_false ?_ fun h => hfits h.1
      rintro ⟨s', hrun, -⟩
      rw [Frame.bytes, List.append_assoc] at hs
      obtain ⟨s'', hrun', -⟩ :=
        readLoop_of_not_fits hs frame.length_header (Nat.not_le.mp hfits)
      rw [hrun', Prod.mk.injEq, Prod.mk.injEq] at hrun
      cases hrun.2.1

/-- A frame of two bytes. -/
private def smallFrame : Frame where
  header := [2, 0, 0, 0, 0, 0, 0, 0, 0, 0, 0, 0, 0, 0, 0, 0]
  payload := [0xFF, 0xD8]
  length_header := rfl
  length_payload := rfl

/-- A frame whose size is negative. -/
private def negativeFrame : Frame where
  header := [0xFF, 0xFF, 0xFF, 0xFF, 0, 0, 0, 0, 0, 0, 0, 0, 0, 0, 0, 0]
  payload := []
  length_header := rfl
  length_payload := rfl

/-- Two frames and the first byte of a payload, in three segments. -/
private def arrived : List (List UInt8) :=
  [[2, 0, 0], [0, 0, 0, 0, 0, 0, 0, 0, 0, 0, 0, 0, 0, 0xFF],
    [0xD8, 0xFF, 0xFF, 0xFF, 0xFF, 0, 0, 0, 0, 0, 0, 0, 0, 0, 0, 0, 0,
      2, 0, 0, 0, 0, 0, 0, 0, 0, 0, 0, 0, 0, 0, 0, 0, 0xFF]]

/-- The payload of the first frame is shown, and nothing else. -/
theorem readLoop_exact_iff_arrived :
    ∃ s', readLoop .ofSegments arrived = ([[0xFF, 0xD8]], .io, s') ∧ s'.flatten = [] := by
  have hs : (Reader.ofSegments.remaining arrived : List UInt8) =
      ([smallFrame, negativeFrame].map Frame.bytes).flatten ++ (smallFrame.header ++ [0xFF]) := rfl
  have hrest : CutOff (smallFrame.header ++ [0xFF]) := by
    refine ⟨smallFrame, ⟨[0xD8], rfl⟩, ?_⟩
    decide
  have hframes : ∀ frame ∈ [smallFrame, negativeFrame], frame.Fits := by
    rw [List.forall_mem_cons, List.forall_mem_singleton]
    constructor <;> unfold Frame.Fits <;> decide
  exact (readLoop_exact_iff .ofSegments hs hrest).mpr ⟨hframes, fun _ => by decide⟩

/-- A frame of the largest size that its header can say. -/
private def largestFrame : Frame where
  header := [0xFF, 0xFF, 0xFF, 0x7F, 0, 0, 0, 0, 0, 0, 0, 0, 0, 0, 0, 0]
  payload := List.replicate 0x7FFFFFFF 0
  length_header := rfl
  length_payload := List.length_replicate.trans (by decide)

/-- The largest frame, and the frame of two bytes after it, are both lost. -/
theorem readLoop_not_exact :
    ¬ Deframes .ofSegments [largestFrame.bytes, smallFrame.bytes] [largestFrame, smallFrame] := by
  have hs : (Reader.ofSegments.remaining [largestFrame.bytes, smallFrame.bytes] : List UInt8) =
      largestFrame.header ++ (largestFrame.payload ++ smallFrame.bytes) := by
    rw [← List.append_assoc]
    exact congrArg (largestFrame.bytes ++ ·) (List.append_nil smallFrame.bytes)
  rintro ⟨s', hrun, -⟩
  obtain ⟨s'', hrun', -⟩ := readLoop_of_not_fits hs largestFrame.length_header (by decide)
  rw [hrun', Prod.mk.injEq, Prod.mk.injEq] at hrun
  cases hrun.2.1

end BBLEspLANCameraStreamer

end Connect3Dp
