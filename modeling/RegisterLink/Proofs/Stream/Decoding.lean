import Mathlib.Logic.ExistsUnique
import RegisterLink.Proofs.Stream.Exchange

/-!
# Frames one behind the other

No frame's encoding begins another's, so a string of bytes can be cut into frames and an unfinished
rest in one way only, and a reader that takes frame after frame finds that cut. What a writer got
accepted before one of its frames failed is such a string too: whoever receives it gets the frames
that were accepted whole, and meets the end of the stream within the next one.
-/
namespace RegisterLink

/-- Sends frames one behind the other, up to the first that fails. -/
def Stream.writeFrames : List Frame → Action Stream Unit
  | [] => pure ()
  | frame :: frames => do
    Stream.writeFrame frame
    writeFrames frames

/-- Receives frames until a read returns none, in at most `reads` reads: the frames, and how the
read that returned none ended, if it came to that. -/
def Stream.readFrames : Nat → Stream → List Frame × Option (Outcome Frame)
  | 0, _ => ([], none)
  | reads + 1, stream =>
    match Stream.readFrame none stream with
    | (.done frame, after) =>
      let (frames, stop) := readFrames reads after
      (frame :: frames, stop)
    | (stop, _) => ([], some stop)

/-! ## One way to cut a string of bytes -/

namespace Frame

/-- The bytes of a frame in front of its body. -/
def header (frame : Frame) : List UInt8 :=
  frame.command :: Word.encode 2 frame.body.length

@[simp] theorem length_header (frame : Frame) : frame.header.length = headerSize := by
  rw [header, List.length_cons, Word.length_encode, headerSize]

theorem encode_eq_header_append (frame : Frame) : frame.encode = frame.header ++ frame.body := by
  rw [encode, toNat_length]
  rfl

@[simp] theorem declaredLength_header (frame : Frame) :
    declaredLength frame.header = frame.body.length := by
  have hfits := frame.body_fits
  rw [maxBodySize] at hfits
  exact Word.decode_encode_of_lt (by omega)

/-- Every frame takes three bytes or more. -/
theorem length_le_flatMap_encode (frames : List Frame) :
    3 * frames.length ≤ (frames.flatMap encode).length := by
  induction frames with
  | nil => exact Nat.zero_le _
  | cons frame frames ih =>
    rw [List.flatMap_cons, List.length_append, length_encode, headerSize, List.length_cons]
    omega

/-- What stands behind a frame has no part in which frame it is. -/
theorem encode_append_inj {frame other : Frame} {rest more : List UInt8}
    (h : frame.encode ++ rest = other.encode ++ more) : frame = other ∧ rest = more := by
  rw [encode_eq_header_append, encode_eq_header_append, List.append_assoc, List.append_assoc] at h
  obtain ⟨hheader, htail⟩ := List.append_inj h (by rw [length_header, length_header])
  have hlength : frame.body.length = other.body.length := by
    rw [← declaredLength_header, hheader, declaredLength_header]
  obtain ⟨hbody, hrest⟩ := List.append_inj htail hlength
  have hcommand : frame.command = other.command := (List.cons.inj hheader).1
  refine ⟨?_, hrest⟩
  rw [Frame.mk.injEq]
  exact ⟨hcommand, hbody⟩

theorem not_incomplete (frame : Frame) (rest : List UInt8) :
    ¬ Incomplete (frame.encode ++ rest) := by
  rintro ⟨whole, ⟨missing, hwhole⟩, hlt⟩
  have hboth : frame.encode ++ (rest ++ missing) = whole.encode ++ [] := by
    rw [← hwhole, List.append_nil, List.append_assoc]
  obtain ⟨rfl, -⟩ := encode_append_inj hboth
  rw [List.length_append] at hlt
  omega

end Frame

/-- A header and at least as many bytes as it declares begin with a whole frame. -/
theorem frame_of_body {header tail : List UInt8} (hheader : header.length = headerSize)
    (hbody : declaredLength header ≤ tail.length) :
    ∃ (frame : Frame) (rest : List UInt8), header ++ tail = frame.encode ++ rest := by
  obtain ⟨frame, -, hencode⟩ := ofBody_of_header hheader (List.length_take_of_le hbody)
  refine ⟨frame, tail.drop (declaredLength header), ?_⟩
  rw [hencode, List.append_assoc, List.take_append_drop]

theorem frame_or_incomplete (bytes : List UInt8) :
    (∃ (frame : Frame) (rest : List UInt8), bytes = frame.encode ++ rest) ∨ Incomplete bytes := by
  by_cases hshort : bytes.length < headerSize
  · exact Or.inr (incomplete_of_header hshort)
  have hheader := List.length_take_of_le (Nat.le_of_not_lt hshort)
  rw [← List.take_append_drop headerSize bytes]
  by_cases hbody : (bytes.drop headerSize).length < declaredLength (bytes.take headerSize)
  · exact Or.inr (incomplete_of_body hheader hbody)
  · exact Or.inl (frame_of_body hheader (Nat.le_of_not_lt hbody))

theorem Incomplete.lacks_body {bytes : List UInt8} (h : Incomplete bytes)
    (hheader : headerSize ≤ bytes.length) :
    (bytes.drop headerSize).length < declaredLength (bytes.take headerSize) := by
  refine Nat.lt_of_not_le fun hbody => ?_
  obtain ⟨frame, rest, hframe⟩ := frame_of_body (List.length_take_of_le hheader) hbody
  rw [List.take_append_drop] at hframe
  exact frame.not_incomplete rest (hframe ▸ h)

/-- The bytes are those of the frames, and then of an unfinished one. -/
structure Cut (bytes : List UInt8) (frames : List Frame) (rest : List UInt8) : Prop where
  bytes_eq : bytes = frames.flatMap Frame.encode ++ rest
  unfinished : Incomplete rest

namespace Cut

variable {bytes rest : List UInt8} {frame : Frame} {frames others : List Frame}

theorem nil (h : Incomplete bytes) : Cut bytes [] bytes := ⟨rfl, h⟩

theorem cons (h : Cut bytes frames rest) (frame : Frame) :
    Cut (frame.encode ++ bytes) (frame :: frames) rest := by
  refine ⟨?_, h.unfinished⟩
  rw [h.bytes_eq, List.flatMap_cons, List.append_assoc]

theorem exists_cut (bytes : List UInt8) : ∃ frames rest, Cut bytes frames rest := by
  -- Every frame taken off the front makes the string shorter.
  induction hlength : bytes.length using Nat.strongRecOn generalizing bytes with
  | ind length ih =>
    rcases frame_or_incomplete bytes with ⟨frame, tail, rfl⟩ | hincomplete
    · have hshorter : tail.length < length := by
        rw [← hlength, List.length_append, Frame.length_encode, headerSize]
        omega
      obtain ⟨frames, rest, hcut⟩ := ih tail.length hshorter tail rfl
      exact ⟨frame :: frames, rest, hcut.cons frame⟩
    · exact ⟨[], bytes, nil hincomplete⟩

theorem unique {more : List UInt8} (h : Cut bytes frames rest) (hother : Cut bytes others more) :
    frames = others ∧ rest = more := by
  obtain ⟨rfl, hrest⟩ := h
  obtain ⟨heq, hmore⟩ := hother
  induction frames generalizing others with
  | nil =>
    cases others with
    | nil => exact ⟨rfl, heq⟩
    | cons other others =>
      rw [List.flatMap_nil, List.nil_append, List.flatMap_cons, List.append_assoc] at heq
      exact absurd (heq ▸ hrest) (other.not_incomplete _)
  | cons frame frames ih =>
    cases others with
    | nil =>
      rw [List.flatMap_nil, List.nil_append, List.flatMap_cons, List.append_assoc] at heq
      exact absurd (heq ▸ hmore) (frame.not_incomplete _)
    | cons other others =>
      rw [List.flatMap_cons, List.flatMap_cons, List.append_assoc, List.append_assoc] at heq
      obtain ⟨rfl, htail⟩ := Frame.encode_append_inj heq
      obtain ⟨rfl, rfl⟩ := ih htail
      exact ⟨rfl, rfl⟩

theorem length_le (h : Cut bytes frames rest) : frames.length ≤ bytes.length / 3 := by
  have hframes := Frame.length_le_flatMap_encode frames
  have hlength := congrArg List.length h.bytes_eq
  rw [List.length_append] at hlength
  omega

/-- The frames of the cut are those whose bytes are there to their end. -/
theorem prefix_iff {front : List Frame} (h : Cut bytes frames rest)
    (hcomparable : front <+: frames ∨ frames <+: front) :
    front.flatMap Frame.encode <+: bytes ↔ front <+: frames := by
  rw [h.bytes_eq]
  constructor
  · intro hfront
    rcases hcomparable with hshorter | ⟨more, rfl⟩
    · exact hshorter
    · cases more with
      | nil => exact ⟨[], by rw [List.append_nil, List.append_nil]⟩
      | cons frame more =>
        rw [List.flatMap_append, List.prefix_append_right_inj, List.flatMap_cons] at hfront
        obtain ⟨missing, hmissing⟩ := hfront
        rw [List.append_assoc] at hmissing
        exact absurd (hmissing ▸ h.unfinished) (frame.not_incomplete _)
  · rintro ⟨more, rfl⟩
    rw [List.flatMap_append, List.append_assoc]
    exact List.prefix_append _ _

end Cut

/-! ## Reading frame after frame -/

namespace Inbound

variable {inbound : Inbound} {frame : Frame} {rest : List UInt8}

/-- A whole frame in front is received, and the bytes behind it are left. -/
theorem readFrame_of_frame (h : inbound.unread = frame.encode ++ rest) :
    ∃ after, Inbound.readFrame none inbound = (.done frame, after) ∧ after.unread = rest ∧
      after.ending = inbound.ending := by
  rw [Frame.encode_eq_header_append, List.append_assoc] at h
  have hheader : headerSize ≤ inbound.unread.length := by
    rw [h, List.length_append, Frame.length_header]
    exact Nat.le_add_right _ _
  obtain ⟨middle, hmiddle, hleft, hending⟩ := receive_of_le (Or.inl rfl) hheader
  rw [h, List.drop_left' frame.length_header] at hleft
  rw [h, List.take_left' frame.length_header] at hmiddle
  have hbody : declaredLength frame.header ≤ middle.unread.length := by
    rw [hleft, Frame.declaredLength_header, List.length_append]
    exact Nat.le_add_right _ _
  obtain ⟨after, hafter, hunread, hend⟩ := receive_of_le (Or.inl rfl) hbody
  rw [hleft, Frame.declaredLength_header, List.take_left] at hafter
  rw [hleft, Frame.declaredLength_header, List.drop_left] at hunread
  refine ⟨after, ?_, hunread, hend.trans hending⟩
  simp only [Inbound.readFrame, hmiddle, Frame.declaredLength_header, hafter]
  have hframe : Frame.ofBody (frame.header.headD 0) frame.body = .ok frame :=
    Frame.ofBody_eq_ok frame.body_fits
  rw [hframe]
  rfl

/-- Of an unfinished frame all is taken, and the read ends as the stream does. -/
theorem readFrame_of_incomplete (h : Incomplete inbound.unread) :
    Inbound.readFrame none inbound =
      ((inbound.ending.shortfall none).outcome none, { inbound with segments := [] }) := by
  by_cases hshort : inbound.unread.length < headerSize
  · simp only [Inbound.readFrame, receive_of_lt (Or.inl rfl) hshort]
  have hheader : headerSize ≤ inbound.unread.length := Nat.le_of_not_lt hshort
  obtain ⟨middle, hmiddle, hleft, hending⟩ := receive_of_le (Or.inl rfl) hheader
  have hbody : middle.unread.length < declaredLength (inbound.unread.take headerSize) :=
    hleft ▸ h.lacks_body hheader
  simp only [Inbound.readFrame, hmiddle, receive_of_lt (Or.inl rfl) hbody, hending]

end Inbound

namespace Stream

variable {frames : List Frame} {stream : Stream}

theorem readFrame_of_frame {frame : Frame} {rest : List UInt8}
    (h : stream.inbound.unread = frame.encode ++ rest) :
    ∃ after, Stream.readFrame none stream = (.done frame, after) ∧ after.inbound.unread = rest ∧
      after.inbound.ending = stream.inbound.ending := by
  obtain ⟨inbound, hread, hunread, hending⟩ := Inbound.readFrame_of_frame h
  refine ⟨{ stream with inbound }, ?_, hunread, hending⟩
  rw [Stream.readFrame, Action.within, hread]

theorem readFrame_of_incomplete (h : Incomplete stream.inbound.unread) :
    ∃ after, Stream.readFrame none stream =
      ((stream.inbound.ending.shortfall none).outcome none, after) := by
  rw [Stream.readFrame, Action.within, Inbound.readFrame_of_incomplete h]
  exact ⟨_, rfl⟩

/-- Reading frame after frame cuts the bytes, and stops at the unfinished rest as the stream
ends. -/
theorem readFrames_of_cut {rest : List UInt8} {reads : Nat}
    (h : Cut stream.inbound.unread frames rest) (hreads : frames.length < reads) :
    stream.readFrames reads =
      (frames, some ((stream.inbound.ending.shortfall none).outcome none)) := by
  induction frames generalizing stream reads with
  | nil =>
    obtain ⟨reads, rfl⟩ := Nat.exists_eq_add_of_lt hreads
    have hunread : stream.inbound.unread = rest := h.bytes_eq
    obtain ⟨after, hread⟩ := readFrame_of_incomplete (hunread ▸ h.unfinished)
    rw [List.length_nil, Nat.zero_add, Stream.readFrames, hread]
    cases stream.inbound.ending <;> rfl
  | cons frame frames ih =>
    obtain ⟨reads, rfl⟩ : ∃ more, reads = more + 1 := ⟨reads - 1, by omega⟩
    have hunread : stream.inbound.unread =
        frame.encode ++ (frames.flatMap Frame.encode ++ rest) := by
      rw [h.bytes_eq, List.flatMap_cons, List.append_assoc]
    obtain ⟨after, hread, hleft, hending⟩ := readFrame_of_frame hunread
    have hcut : Cut after.inbound.unread frames rest := ⟨hleft, h.unfinished⟩
    rw [Stream.readFrames, hread]
    dsimp only
    rw [ih hcut (Nat.lt_of_succ_lt_succ hreads), hending]

/-! ## Writing frame after frame -/

/-- What is accepted are the frames in front of the first that fails, and the first bytes of that
one. -/
theorem writeFrames_accepts {before after : Stream} {outcome : Outcome Unit}
    (h : Stream.writeFrames frames before = (outcome, after)) :
    ∃ accepted whole rest, after.outbound.sent = before.outbound.sent ++ accepted ∧
      accepted <+: frames.flatMap Frame.encode ∧ Cut accepted whole rest ∧ whole <+: frames ∧
      (outcome = .done () → whole = frames) := by
  induction frames generalizing before with
  | nil =>
    obtain ⟨rfl, rfl⟩ := Prod.mk.inj h
    exact ⟨[], [], [], (List.append_nil _).symm, List.prefix_rfl, .nil incomplete_nil,
      List.prefix_rfl, fun _ => rfl⟩
  | cons frame frames ih =>
    rw [Stream.writeFrames] at h
    rcases hwrite : Stream.writeFrame frame before with ⟨written, middle⟩
    obtain ⟨-, hsending, -⟩ := Stream.writeFrame_dispatched hwrite
    cases hsending with
    | sent hsent hflushed =>
      rw [Action.bind_of_done hwrite] at h
      obtain ⟨accepted, whole, rest, hmore, hprefix, hcut, hwhole, hdone⟩ := ih h
      refine ⟨frame.encode ++ accepted, frame :: whole, rest, ?_, ?_, hcut.cons frame, ?_, ?_⟩
      · rw [hmore, hsent, List.append_assoc]
      · rw [List.flatMap_cons]
        exact (List.prefix_append_right_inj _).mpr hprefix
      · exact List.cons_prefix_cons.mpr ⟨rfl, hwhole⟩
      · intro hcompletes
        rw [hdone hcompletes]
    | unflushed hsent hcount =>
      rw [Action.bind_of_failed hwrite] at h
      obtain ⟨rfl, rfl⟩ := Prod.mk.inj h
      refine ⟨frame.encode ++ [], [frame], [], ?_, ?_, (Cut.nil incomplete_nil).cons frame, ?_,
        nofun⟩
      · rw [hsent, List.append_nil]
      · rw [List.flatMap_cons]
        exact (List.prefix_append_right_inj _).mpr List.nil_prefix
      · exact List.cons_prefix_cons.mpr ⟨rfl, List.nil_prefix⟩
    | @cutOff _ _ part hpart hsent hcount =>
      rw [Action.bind_of_failed hwrite] at h
      obtain ⟨rfl, rfl⟩ := Prod.mk.inj h
      refine ⟨part, [], part, hsent, ?_, .nil ⟨frame, hpart⟩, List.nil_prefix, nofun⟩
      rw [List.flatMap_cons]
      exact hpart.1.trans (List.prefix_append _ _)

end Stream

/-- A peer that receives what a writer of frames got accepted reads the frames that were accepted
whole, and then the end of the stream. Every string of bytes is cut into frames and an unfinished
one in one way, and reading frame after frame computes it. -/
theorem frame_streams_decode :
    (∀ (frames : List Frame) (sender : Stream), ∃ accepted whole,
      (Stream.writeFrames frames sender).2.outbound.sent = sender.outbound.sent ++ accepted ∧
      accepted <+: frames.flatMap Frame.encode ∧
      ((Stream.writeFrames frames sender).1 = .done () → whole = frames) ∧
      whole <+: frames ∧
      (∀ front, front <+: frames →
        (front.flatMap Frame.encode <+: accepted ↔ front <+: whole)) ∧
      ∀ (peer : Stream) (reads : Nat), peer.inbound.unread = accepted →
        peer.inbound.ending = .closed → whole.length < reads →
          peer.readFrames reads = (whole, some (.failed (.transport .endOfStream)))) ∧
    (∀ bytes : List UInt8, ∃! cut : List Frame × List UInt8,
      bytes = cut.1.flatMap Frame.encode ++ cut.2 ∧ Incomplete cut.2) ∧
    ∀ (peer : Stream) (frames : List Frame) (rest : List UInt8),
      peer.inbound.unread = frames.flatMap Frame.encode ++ rest → Incomplete rest →
        ∀ reads, peer.inbound.unread.length / 3 < reads →
          peer.readFrames reads =
            (frames, some ((peer.inbound.ending.shortfall none).outcome none)) := by
  refine ⟨fun frames sender => ?_, fun bytes => ?_,
    fun peer frames rest hbytes hrest reads hlt => ?_⟩
  · obtain ⟨accepted, whole, rest, hsent, hprefix, hcut, hwhole, hdone⟩ :=
      @Stream.writeFrames_accepts frames sender _ _ rfl
    refine ⟨accepted, whole, hsent, hprefix, hdone, hwhole, fun front hfront => ?_, ?_⟩
    · exact hcut.prefix_iff (List.prefix_or_prefix_of_prefix hfront hwhole)
    · intro peer reads hunread hclosed hreads
      rw [Stream.readFrames_of_cut (hunread ▸ hcut) hreads, hclosed]
      rfl
  · obtain ⟨frames, rest, hcut⟩ := Cut.exists_cut bytes
    refine ⟨(frames, rest), ⟨hcut.bytes_eq, hcut.unfinished⟩, ?_⟩
    rintro ⟨others, more⟩ ⟨hbytes, hmore⟩
    obtain ⟨rfl, rfl⟩ := hcut.unique ⟨hbytes, hmore⟩
    rfl
  · have hcut : Cut peer.inbound.unread frames rest := ⟨hbytes, hrest⟩
    exact Stream.readFrames_of_cut hcut (Nat.lt_of_le_of_lt hcut.length_le hlt)

/-- A sender with room for one frame and the first byte of the next, and a peer that gets these
bytes one or two at a time. -/
theorem frame_streams_decode_cut_off :
    let first : Frame := ⟨7, [8, 9], by decide⟩
    let frames := [first, Frame.empty .bye]
    let sender : Stream :=
      { inbound := ⟨[], .closed⟩, outbound := { chunk := some 2, room := some 6 } }
    let peer : Stream :=
      { inbound :=
          ⟨[⟨5, [7, 2]⟩, ⟨0, []⟩, ⟨1, [0]⟩, ⟨0, [8, 9]⟩, ⟨3, [Command.bye.byte]⟩], .closed⟩ }
    (Stream.writeFrames frames sender).2.outbound.sent = peer.inbound.unread ∧
      ∃ whole, whole <+: frames ∧ peer.inbound.unread.length / 3 < 3 ∧
        peer.readFrames 3 = (whole, some (.failed (.transport .endOfStream))) ∧
        peer.readFrames 3 = ([first], some (.failed (.transport .endOfStream))) := by
  intro first frames sender peer
  have hsent : (Stream.writeFrames frames sender).2.outbound.sent = peer.inbound.unread := by
    decide +kernel
  obtain ⟨accepted, whole, haccepted, -, -, hwhole, -, hreads⟩ :=
    frame_streams_decode.1 frames sender
  have hunread : peer.inbound.unread = accepted := hsent ▸ haccepted
  have hfew : whole.length < 3 := Nat.lt_succ_of_le hwhole.length_le
  refine ⟨hsent, whole, hwhole, by decide, hreads peer 3 hunread rfl hfew, ?_⟩
  decide +kernel

end RegisterLink
