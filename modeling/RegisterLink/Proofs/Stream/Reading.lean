import RegisterLink.Proofs.Stream.Decoding

/-!
# One frame, and not a byte more

A read without a time limit returns a frame exactly when the bytes that are left begin with its
encoding, and it leaves the bytes behind it. Otherwise it takes all that is left and ends as the
stream does. Whichever way a frame is made, its header tells the size of its body.
-/
namespace RegisterLink

/-- The body fits, the header tells its size, and there is nothing else. -/
structure Frame.Measured (frame : Frame) : Prop where
  body_size : frame.body.length ≤ 65535
  length_eq : frame.length.toNat = frame.body.length
  layout : ∃ low high : UInt8, frame.encode = frame.command :: low :: high :: frame.body ∧
    low.toNat + 256 * high.toNat = frame.body.length
  encode_size : frame.encode.length = 3 + frame.length.toNat

namespace Frame

theorem measured (frame : Frame) : frame.Measured where
  body_size := frame.body_fits
  length_eq := frame.toNat_length
  layout := by
    refine ⟨UInt8.ofNat frame.body.length, UInt8.ofNat (frame.body.length / 256), ?_,
      frame.declaredLength_header⟩
    rw [encode, toNat_length]
    rfl
  encode_size := by rw [length_encode, toNat_length, headerSize]

/-- A body is made into a frame, or it is too long for any. -/
inductive Building (command : UInt8) (body : List UInt8) : Except FrameTooLarge Frame → Prop
  | made {frame : Frame} (fits : body.length ≤ 65535) (command_eq : frame.command = command)
      (body_eq : frame.body = body) (measured : frame.Measured) : Building command body (.ok frame)
  | tooLarge (large : 65535 < body.length) : Building command body (.error ⟨body.length⟩)

theorem ofBody_building (command : UInt8) (body : List UInt8) :
    Building command body (ofBody command body) := by
  by_cases hfits : body.length ≤ maxBodySize
  · rw [ofBody_eq_ok hfits]
    exact .made hfits rfl rfl (measured _)
  · rw [ofBody, dif_neg hfits]
    exact .tooLarge (Nat.lt_of_not_le hfits)

end Frame

/-- How a read without a time limit ends if it lacks bytes. -/
def Ending.stop : Ending → Outcome Frame
  | closed => .failed (.transport .endOfStream)
  | broken kind => .failed (.transport (.broken kind))
  | silent => .blocked

theorem Ending.outcome_shortfall (ending : Ending) :
    (ending.shortfall none).outcome none = ending.stop := by
  cases ending <;> rfl

/-- The bytes begin with a whole frame. -/
def BeginsWithFrame (bytes : List UInt8) : Prop :=
  ∃ (frame : Frame) (rest : List UInt8), bytes = frame.encode ++ rest

theorem incomplete_of_no_frame {bytes : List UInt8} (h : ¬ BeginsWithFrame bytes) :
    Incomplete bytes :=
  (frame_or_incomplete bytes).resolve_left h

theorem no_frame_of_short {bytes : List UInt8} (h : bytes.length < headerSize) :
    ¬ BeginsWithFrame bytes := by
  rintro ⟨frame, rest, rfl⟩
  rw [List.length_append, Frame.length_encode] at h
  omega

namespace Stream

variable {stream : Stream}

theorem readFrame_done_iff {frame : Frame} {rest : List UInt8} :
    (∃ after, Stream.readFrame none stream = (.done frame, after) ∧ after.inbound.unread = rest) ↔
      stream.inbound.unread = frame.encode ++ rest := by
  constructor
  · rintro ⟨after, hread, rfl⟩
    obtain ⟨hreceiving, -⟩ := readFrame_cases hread
    cases hreceiving with
    | received taken => exact taken
  · intro hunread
    obtain ⟨after, hread, hrest, -⟩ := readFrame_of_frame hunread
    exact ⟨after, hread, hrest⟩

theorem readFrame_of_no_frame (h : ¬ BeginsWithFrame stream.inbound.unread) :
    ∃ after, Stream.readFrame none stream = (stream.inbound.ending.stop, after) ∧
      after.inbound.unread = [] := by
  rw [Stream.readFrame, Action.within,
    Inbound.readFrame_of_incomplete (incomplete_of_no_frame h), Ending.outcome_shortfall]
  exact ⟨_, rfl, rfl⟩

end Stream

/-- Reading one frame undoes encoding one, whatever stands behind it and however it arrives; the
end of the stream matters only if no whole frame is left. Frames that are built, empty or read all
tell their size truly. -/
theorem frame_read_exactly :
    (∀ (stream : Stream) (frame : Frame) (rest : List UInt8),
      (∃ after, Stream.readFrame none stream = (.done frame, after) ∧
        after.inbound.unread = rest) ↔ stream.inbound.unread = frame.encode ++ rest) ∧
    (∀ stream : Stream, ¬ BeginsWithFrame stream.inbound.unread →
      ∃ after, Stream.readFrame none stream = (stream.inbound.ending.stop, after) ∧
        after.inbound.unread = []) ∧
    (TransportFault.endOfStream.kind = .unexpectedEnd ∧
      TransportFault.endOfStream.detail = "early eof") ∧
    (∀ command body, Frame.Building command body (Frame.ofBody command body)) ∧
    (∀ command : Command, (Frame.empty command).body = [] ∧ (Frame.empty command).Measured) ∧
    (∀ (stream after : Stream) (frame : Frame),
      Stream.readFrame none stream = (.done frame, after) → frame.Measured) := by
  refine ⟨fun stream frame rest => Stream.readFrame_done_iff,
    fun stream => Stream.readFrame_of_no_frame, ⟨rfl, rfl⟩, Frame.ofBody_building,
    fun command => ⟨rfl, Frame.measured _⟩, fun stream after frame _ => Frame.measured frame⟩

/-- Two frames whose bytes arrive one or two at a time, the second cut off by a broken stream. -/
theorem frame_read_exactly_cut_off :
    let frame : Frame := ⟨7, [8, 9], by decide⟩
    let stream : Stream :=
      { inbound := ⟨[⟨0, [7, 2]⟩, ⟨0, []⟩, ⟨0, [0]⟩, ⟨0, [8, 9, 7]⟩], .broken .connectionReset⟩ }
    let rest : Stream := { inbound := ⟨[⟨0, [7]⟩], .broken .connectionReset⟩ }
    (∃ after, Stream.readFrame none stream = (.done frame, after) ∧ after.inbound.unread = [7]) ∧
      frame.Measured ∧ ¬ BeginsWithFrame rest.inbound.unread ∧
      ∃ after, Stream.readFrame none rest =
          (.failed (.transport (.broken .connectionReset)), after) ∧ after.inbound.unread = [] := by
  intro frame stream rest
  have hnone : ¬ BeginsWithFrame rest.inbound.unread := no_frame_of_short (by decide)
  obtain ⟨after, hread, hrest⟩ :=
    (frame_read_exactly.1 stream frame [7]).mpr (by decide +kernel)
  exact ⟨⟨after, hread, hrest⟩, frame_read_exactly.2.2.2.2.2 stream after frame hread, hnone,
    frame_read_exactly.2.1 rest hnone⟩

end RegisterLink
