import RegisterLink.Proofs.Action
import RegisterLink.Script.Call

/-!
# Calls as requests

Every call but the release of the stream comes to the same: its argument is checked, one frame is
built from it, the frame is sent, and a ping or a read takes one answer and judges it. The session
is asked only in between, so an argument is refused whether or not the session can still be used.
It is marked where the stream fails and where an answer is turned down, which is the same as marking
it by the outcome of both together.
-/
namespace RegisterLink

def Frame.ofRead (request : ReadRequest) : Frame :=
  ⟨Command.read.byte, request.encode, by rw [ReadRequest.encode, length_encodeAccess]; decide⟩

def Frame.ofWrite (request : WriteRequest) (h : request.data.length ≤ maxPayloadSize) : Frame :=
  ⟨Command.write.byte,
    encodeAccess request.deviceId request.offset (UInt16.ofNat request.data.length) ++ request.data,
    by
      rw [maxPayloadSize] at h
      have hsize : accessHeaderSize ≤ maxBodySize := by decide
      rw [List.length_append, length_encodeAccess]
      omega⟩

/-- Requests that are followed by an answer. -/
def Frame.expectsAnswer (frame : Frame) : Bool :=
  frame.kind = some .echoRequest || frame.kind = some .query || frame.kind = some .read

theorem Frame.read_frame_eq (request : ReadRequest) :
    Command.read.frame request.encode = .ok (Frame.ofRead request) := by
  have hfits : request.encode.length ≤ maxBodySize := (Frame.ofRead request).body_fits
  rw [Command.frame, Frame.ofBody_eq_ok hfits]
  rfl

theorem Frame.write_frame_eq (request : WriteRequest) (h : request.data.length ≤ maxPayloadSize) :
    Command.write.frame (Frame.ofWrite request h).body = .ok (Frame.ofWrite request h) := by
  rw [Command.frame, Frame.ofBody_eq_ok (Frame.ofWrite request h).body_fits]
  rfl

theorem WriteRequest.encode_of_fits (request : WriteRequest)
    (h : request.data.length ≤ maxPayloadSize) :
    request.encode = .ok (Frame.ofWrite request h).body := by
  rw [WriteRequest.encode, if_neg (Nat.not_lt.mpr h)]
  rfl

namespace Call

def refusal : Call → Option InvalidArgument
  | write _ data =>
    if maxPayloadSize < data.length then some (.payloadTooLong data.length) else none
  | writeBytes width _ data =>
    if data.length = width.bytes then none else some (.wrongWidth width data.length)
  | _ => none

def writeRequest? (request : WriteRequest) : Option Frame :=
  if h : request.data.length ≤ maxPayloadSize then some (Frame.ofWrite request h) else none

/-- The frame a call sends to the given device, if its argument is accepted. -/
def request? (deviceId : UInt8) : Call → Option Frame
  | ping => some (Frame.empty .echoRequest)
  | read offset size => some (Frame.ofRead ⟨deviceId, offset, size⟩)
  | readWord width offset => some (Frame.ofRead ⟨deviceId, offset, UInt16.ofNat width.bytes⟩)
  | write offset data => writeRequest? ⟨deviceId, offset, data⟩
  | writeWord width offset value =>
    writeRequest? ⟨deviceId, offset, Word.encode width.bytes value.toNat⟩
  | writeBytes width offset data =>
    if data.length = width.bytes then writeRequest? ⟨deviceId, offset, data⟩ else none
  | bye => some (Frame.empty .bye)
  | release => none

/-- What a call makes of the answer to its request, if there is to be one. -/
def judge? : Call → Option (Frame → Except ProtocolFault Reply)
  | ping => some fun answer =>
    if answer.isEmptyOf .echoReply then .ok .alive else .error (.wrongEcho answer)
  | read _ _ => some fun answer => (Link.readReply answer).map .word
  | readWord _ _ => some fun answer => (Link.readReply answer).map .word
  | _ => none

/-- Sends the request of a call and takes the answer to it. -/
def transact (call : Call) (limit : Budget) (request : Frame) : Action Stream Reply :=
  match call.judge? with
  | some judge => do
    let answer ← Stream.exchange limit request
    Action.ofExcept ((judge answer).mapError .protocol)
  | none => do
    Stream.writeFrame request
    return .nothing

/-- The same on a link, whose session is asked first. It is not marked here, whatever happens. -/
def transactOn (call : Call) (request : Frame) : Action Link Reply := do
  Link.ensureSynchronized
  Link.onStream (call.transact (← Link.currentSession).limit request)

variable {call : Call} {judge : Frame → Except ProtocolFault Reply}

theorem transact_of_judge (h : call.judge? = some judge) (limit : Budget) (request : Frame) :
    call.transact limit request = (do
      let answer ← Stream.exchange limit request
      Action.ofExcept ((judge answer).mapError .protocol)) := by
  rw [transact, h]

theorem transact_of_unanswered (h : call.judge? = none) (limit : Budget) (request : Frame) :
    call.transact limit request = (do Stream.writeFrame request; return .nothing) := by
  rw [transact, h]

theorem transactOn_apply (call : Call) (request : Frame) (link : Link) :
    call.transactOn request link =
      if link.session.desynchronized then (.failed (.protocol .desynchronized), link)
      else Link.onStream (call.transact link.session.limit request) link := by
  rw [transactOn, Link.ensureSynchronized_bind, Link.currentSession_bind]

/-- Marking by the outcome of a whole transaction is marking where the exchange fails and where the
answer is turned down. -/
theorem tracked_transactOn_of_judge (h : call.judge? = some judge) (request : Frame) :
    Link.tracked (call.transactOn request) = (do
      let answer ← Link.exchange request
      Link.tracked (Action.ofExcept ((judge answer).mapError .protocol))) := by
  rw [transactOn, Link.exchange, Link.tracked_bind, Link.tracked_ensureSynchronized, bind_assoc]
  refine bind_congr fun _ => ?_
  rw [Link.tracked_bind, Link.tracked_currentSession, bind_assoc]
  refine bind_congr fun session => ?_
  rw [transact_of_judge h, Link.onStream_bind, Link.tracked_bind]
  simp only [Link.onStream_ofExcept]

theorem tracked_transactOn_of_unanswered (h : call.judge? = none) (request : Frame) :
    Link.tracked (call.transactOn request) = (do Link.send request; return .nothing) := by
  rw [transactOn, Link.send, Link.tracked_bind, Link.tracked_ensureSynchronized, bind_assoc]
  refine bind_congr fun _ => ?_
  funext link
  rw [Link.tracked_bind, Link.tracked_currentSession, Link.currentSession_bind,
    transact_of_unanswered h, Link.onStream_bind, Link.tracked_bind]
  rfl

/-! ## The check of the argument -/

theorem writeRequest?_eq {request : WriteRequest} (h : request.data.length ≤ maxPayloadSize) :
    writeRequest? request = some (Frame.ofWrite request h) := dif_pos h

theorem word_fits (width : Width) (value : Nat) :
    (Word.encode width.bytes value).length ≤ maxPayloadSize := by
  rw [Word.length_encode]
  cases width <;> decide

theorem bytes_le_maxPayloadSize (width : Width) : width.bytes ≤ maxPayloadSize := by
  cases width <;> decide

/-- A call is refused by its argument, or it is the release, or it has a request. -/
theorem refused_or_request (call : Call) (deviceId : UInt8) :
    (∃ fault, call.refusal = some fault ∧ call.request? deviceId = none) ∨ call = .release ∨
      ∃ request, call.refusal = none ∧ call.request? deviceId = some request := by
  cases call with
  | ping => exact Or.inr (Or.inr ⟨_, rfl, rfl⟩)
  | read offset size => exact Or.inr (Or.inr ⟨_, rfl, rfl⟩)
  | readWord width offset => exact Or.inr (Or.inr ⟨_, rfl, rfl⟩)
  | write offset data =>
    by_cases h : data.length ≤ maxPayloadSize
    · refine Or.inr (Or.inr ⟨_, if_neg (Nat.not_lt.mpr h), writeRequest?_eq h⟩)
    · exact Or.inl ⟨_, if_pos (Nat.lt_of_not_le h), dif_neg h⟩
  | writeWord width offset value =>
    exact Or.inr (Or.inr ⟨_, rfl, writeRequest?_eq (word_fits width value.toNat)⟩)
  | writeBytes width offset data =>
    by_cases h : data.length = width.bytes
    · have hfits : data.length ≤ maxPayloadSize := h ▸ bytes_le_maxPayloadSize width
      exact Or.inr (Or.inr ⟨_, if_pos h, (if_pos h).trans (writeRequest?_eq hfits)⟩)
    · exact Or.inl ⟨_, if_neg h, if_neg h⟩
  | bye => exact Or.inr (Or.inr ⟨_, rfl, rfl⟩)
  | release => exact Or.inr (Or.inl rfl)

theorem ofWrite_of_writeRequest? {access : WriteRequest} {frame : Frame}
    (h : writeRequest? access = some frame) : ∃ hfits, frame = Frame.ofWrite access hfits := by
  unfold writeRequest? at h
  split at h
  · exact ⟨‹_›, (Option.some.inj h).symm⟩
  · cases h

/-- A request asks for an answer exactly when its call judges one. -/
theorem expectsAnswer_of_request {call : Call} {deviceId : UInt8} {request : Frame}
    (h : call.request? deviceId = some request) :
    request.expectsAnswer = call.judge?.isSome := by
  have hwrite : ∀ {access : WriteRequest}, writeRequest? access = some request →
      request.expectsAnswer = false := by
    intro access haccess
    obtain ⟨hfits, rfl⟩ := ofWrite_of_writeRequest? haccess
    rfl
  cases call with
  | ping => obtain rfl := Option.some.inj h; rfl
  | read offset size => obtain rfl := Option.some.inj h; rfl
  | readWord width offset => obtain rfl := Option.some.inj h; rfl
  | write offset data => exact hwrite h
  | writeWord width offset value => exact hwrite h
  | writeBytes width offset data =>
    change (if _ then _ else _) = _ at h
    split at h
    · exact hwrite h
    · cases h
  | bye => obtain rfl := Option.some.inj h; rfl
  | release => cases h

theorem expectsAnswer_of_judge {call : Call} {deviceId : UInt8} {request : Frame}
    {judge : Frame → Except ProtocolFault Reply} (h : call.request? deviceId = some request)
    (hjudge : call.judge? = some judge) : request.expectsAnswer = true := by
  rw [expectsAnswer_of_request h, hjudge]
  rfl

theorem not_expectsAnswer_of_unanswered {call : Call} {deviceId : UInt8} {request : Frame}
    (h : call.request? deviceId = some request) (hjudge : call.judge? = none) :
    request.expectsAnswer = false := by
  rw [expectsAnswer_of_request h, hjudge]
  rfl

/-! ## Calls by their requests -/

theorem perform_release (link : Link) : release.perform link = (.done .nothing, link) := rfl

theorem perform_ping (link : Link) :
    ping.perform link =
      Link.tracked (ping.transactOn (Frame.empty .echoRequest)) link := by
  show (Link.ping >>= fun _ => pure Reply.alive) link = _
  rw [tracked_transactOn_of_judge rfl, Link.ping, bind_assoc]
  refine congrFun (bind_congr fun answer => ?_) link
  split <;> rfl

theorem perform_read (offset : UInt32) (size : UInt16) (link : Link) :
    (read offset size).perform link =
      Link.tracked ((read offset size).transactOn
        (Frame.ofRead ⟨link.session.device.deviceId, offset, size⟩)) link := by
  show (Link.read offset size >>= fun value => pure (Reply.word value)) link = _
  -- The device is looked up first, the session is asked only when the request is ready.
  rw [tracked_transactOn_of_judge rfl, Link.read, bind_assoc, Link.currentSession_bind, bind_assoc,
    Frame.read_frame_eq, Action.ofExcept_ok, pure_bind, bind_assoc]
  refine congrFun (bind_congr fun answer => ?_) link
  cases Link.readReply answer <;> rfl

theorem perform_write (offset : UInt32) (data : List UInt8) (h : data.length ≤ maxPayloadSize)
    (link : Link) :
    (write offset data).perform link =
      Link.tracked ((write offset data).transactOn
        (Frame.ofWrite ⟨link.session.device.deviceId, offset, data⟩ h)) link := by
  show (Link.write offset data >>= fun _ => pure Reply.nothing) link = _
  rw [tracked_transactOn_of_unanswered rfl, Link.write, bind_assoc, Link.currentSession_bind,
    bind_assoc, WriteRequest.encode_of_fits _ h]
  show (Action.ofExcept (Command.write.frame _) >>= _ >>= _) link = _
  rw [Frame.write_frame_eq _ h]
  rfl

theorem write_perform_of_long {offset : UInt32} {data : List UInt8}
    (h : maxPayloadSize < data.length) (link : Link) :
    (write offset data).perform link =
      (.failed (.invalidArgument (.payloadTooLong data.length)), link) := by
  show (Link.write offset data >>= fun _ => pure Reply.nothing) link = _
  rw [Link.write, bind_assoc, Link.currentSession_bind, bind_assoc, WriteRequest.encode, if_pos h]
  rfl

/-- A refused argument changes nothing. -/
theorem perform_refused {call : Call} {fault : InvalidArgument} (h : call.refusal = some fault)
    (link : Link) : call.perform link = (.failed (.invalidArgument fault), link) := by
  cases call with
  | write offset data =>
    change (if _ then _ else _) = _ at h
    split at h
    · obtain rfl := Option.some.inj h
      exact write_perform_of_long ‹_› link
    · cases h
  | writeBytes width offset data =>
    change (if _ then _ else _) = _ at h
    split at h
    · cases h
    · obtain rfl := Option.some.inj h
      show (Link.writeBytes width offset data >>= fun _ => pure Reply.nothing) link = _
      rw [Link.writeBytes, if_neg ‹_›]
      rfl
  | _ => cases h

/-- An accepted argument becomes a request, and the request decides. -/
theorem perform_request {call : Call} {link : Link} {request : Frame}
    (h : call.request? link.session.device.deviceId = some request) :
    call.perform link = Link.tracked (call.transactOn request) link := by
  have hwrite : ∀ {offset : UInt32} {data : List UInt8},
      writeRequest? ⟨link.session.device.deviceId, offset, data⟩ = some request →
        (write offset data).perform link =
          Link.tracked ((write offset data).transactOn request) link := by
    intro offset data haccess
    obtain ⟨hfits, rfl⟩ := ofWrite_of_writeRequest? haccess
    exact perform_write offset data hfits link
  cases call with
  | ping => obtain rfl := Option.some.inj h; exact perform_ping link
  | read offset size => obtain rfl := Option.some.inj h; exact perform_read offset size link
  | readWord width offset => obtain rfl := Option.some.inj h; exact perform_read offset _ link
  | write offset data => exact hwrite h
  | writeWord width offset value => exact hwrite h
  | writeBytes width offset data =>
    change (if _ then _ else _) = _ at h
    split at h
    · have hbytes : Link.writeBytes width offset data = Link.write offset data := if_pos ‹_›
      show (Link.writeBytes width offset data >>= fun _ => pure Reply.nothing) link = _
      rw [hbytes]
      exact hwrite h
    · cases h
  | bye =>
    obtain rfl := Option.some.inj h
    rw [tracked_transactOn_of_unanswered rfl]
    rfl
  | release => cases h

end Call

end RegisterLink
