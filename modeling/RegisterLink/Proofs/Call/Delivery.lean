import RegisterLink.Proofs.Likeness.Content
import RegisterLink.Proofs.Message.Access
import RegisterLink.Proofs.Session.Silence
import RegisterLink.Proofs.Stream.Decoding

/-!
# What the server understands

A call that gets its request out to the end has sent one frame. Whoever receives this frame and
decodes it finds the device of the session and the register, size and data that the caller named. A
number is written as the bytes a caller would have written for it, so the two ways of writing it
cannot be told apart.
-/
namespace RegisterLink

/-- The frame says what the caller of the call said. -/
inductive Call.Conveyed (deviceId : UInt8) (frame : Frame) : Call → Prop
  | ping (same : frame = Frame.empty .echoRequest) : Conveyed deviceId frame .ping
  | read {offset : UInt32} {size : UInt16} (kind : frame.kind = some .read)
      (decoded : ReadRequest.decode frame.body = .ok ⟨deviceId, offset, size⟩) :
      Conveyed deviceId frame (.read offset size)
  | readWord {width : Width} {offset : UInt32} {size : UInt16} (kind : frame.kind = some .read)
      (decoded : ReadRequest.decode frame.body = .ok ⟨deviceId, offset, size⟩)
      (wide : size.toNat = width.bytes) : Conveyed deviceId frame (.readWord width offset)
  | write {offset : UInt32} {data : List UInt8} (kind : frame.kind = some .write)
      (decoded : WriteRequest.decode frame.body = .ok ⟨deviceId, offset, data⟩) :
      Conveyed deviceId frame (.write offset data)
  | writeWord {width : Width} {offset : UInt32} {value : BitVec width.bits} {data : List UInt8}
      (kind : frame.kind = some .write)
      (decoded : WriteRequest.decode frame.body = .ok ⟨deviceId, offset, data⟩)
      (wide : data.length = width.bytes)
      (digits : Nat.ofDigits 256 (data.map UInt8.toNat) = value.toNat) :
      Conveyed deviceId frame (.writeWord width offset value)
  | writeBytes {width : Width} {offset : UInt32} {data : List UInt8}
      (kind : frame.kind = some .write)
      (decoded : WriteRequest.decode frame.body = .ok ⟨deviceId, offset, data⟩) :
      Conveyed deviceId frame (.writeBytes width offset data)
  | bye (same : frame = Frame.empty .bye) : Conveyed deviceId frame .bye

/-- Bytes in the body of a call's request. -/
def Call.bodySize : Call → Nat
  | read _ _ => accessHeaderSize
  | readWord _ _ => accessHeaderSize
  | write _ data => accessHeaderSize + data.length
  | writeWord width _ _ => accessHeaderSize + width.bytes
  | writeBytes _ _ data => accessHeaderSize + data.length
  | _ => 0

/-- The bytes a call sends on the stream of a session. -/
def Call.sent (call : Call) (session : Session) (stream : Stream) : List UInt8 :=
  (Client.record (.call call) { stream, session := some session }).1.sent

/-! ## Requests -/

theorem Width.toNat_lt (width : Width) (value : BitVec width.bits) :
    value.toNat < 256 ^ width.bytes := by
  have hlt : value.toNat < 2 ^ (8 * width.bytes) := value.isLt
  rw [Nat.pow_mul] at hlt
  exact hlt

namespace Call

variable {call : Call} {deviceId : UInt8} {request : Frame}

theorem writeRequest?_decodes {access : WriteRequest} (h : writeRequest? access = some request) :
    request.kind = some .write ∧ WriteRequest.decode request.body = .ok access ∧
      request.encode.length = headerSize + (accessHeaderSize + access.data.length) := by
  obtain ⟨hfits, rfl⟩ := ofWrite_of_writeRequest? h
  refine ⟨rfl, WriteRequest.decode_of_encode (WriteRequest.encode_of_fits access hfits), ?_⟩
  rw [Frame.length_encode]
  show headerSize + (encodeAccess _ _ _ ++ access.data).length = _
  rw [List.length_append, length_encodeAccess]

theorem ofRead_decodes (access : ReadRequest) :
    (Frame.ofRead access).kind = some .read ∧
      ReadRequest.decode (Frame.ofRead access).body = .ok access :=
  ⟨rfl, access.decode_encode⟩

/-- The request of a call says what its caller said. -/
theorem conveyed_of_request (h : call.request? deviceId = some request) :
    call.Conveyed deviceId request := by
  cases call with
  | ping =>
    obtain rfl := Option.some.inj h
    exact .ping rfl
  | read offset size =>
    obtain rfl := Option.some.inj h
    obtain ⟨hkind, hdecode⟩ := ofRead_decodes ⟨deviceId, offset, size⟩
    exact .read hkind hdecode
  | readWord width offset =>
    obtain rfl := Option.some.inj h
    obtain ⟨hkind, hdecode⟩ := ofRead_decodes ⟨deviceId, offset, UInt16.ofNat width.bytes⟩
    exact .readWord hkind hdecode (by cases width <;> rfl)
  | write offset data =>
    obtain ⟨hkind, hdecode, -⟩ := writeRequest?_decodes h
    exact .write hkind hdecode
  | writeWord width offset value =>
    obtain ⟨hkind, hdecode, -⟩ := writeRequest?_decodes h
    refine .writeWord hkind hdecode (Word.length_encode _ _) ?_
    rw [← Word.decode_eq_ofDigits]
    exact Word.decode_encode_of_lt (width.toNat_lt value)
  | writeBytes width offset data =>
    change (if _ then _ else _) = _ at h
    split at h
    · obtain ⟨hkind, hdecode, -⟩ := writeRequest?_decodes h
      exact .writeBytes hkind hdecode
    · cases h
  | bye =>
    obtain rfl := Option.some.inj h
    exact .bye rfl
  | release => cases h

theorem length_encode_of_request (h : call.request? deviceId = some request) :
    request.encode.length = headerSize + call.bodySize := by
  cases call with
  | ping => obtain rfl := Option.some.inj h; rfl
  | read offset size => obtain rfl := Option.some.inj h; exact length_encode_ofRead _
  | readWord width offset => obtain rfl := Option.some.inj h; exact length_encode_ofRead _
  | write offset data => exact (writeRequest?_decodes h).2.2
  | writeWord width offset value =>
    rw [(writeRequest?_decodes h).2.2, Word.length_encode]
    rfl
  | writeBytes width offset data =>
    change (if _ then _ else _) = _ at h
    split at h
    · exact (writeRequest?_decodes h).2.2
    · cases h
  | bye => obtain rfl := Option.some.inj h; rfl
  | release => cases h

end Call

/-! ## What a call does to the sending side -/

namespace Call

variable {call : Call} {link : Link} {request : Frame}

theorem transact_outbound (call : Call) (limit : Budget) (request : Frame) (stream : Stream) :
    (call.transact limit request stream).2.outbound =
      (Outbound.writeFrame request stream.outbound).2 := by
  cases hjudge : call.judge? with
  | none =>
    rw [transact_of_unanswered hjudge, Action.bind_keeps Stream.outbound fun _ _ => rfl]
    rfl
  | some judge =>
    have hjudged : ∀ (answer : Frame) (stream : Stream),
        (Action.ofExcept ((judge answer).mapError Error.protocol) stream).2.outbound =
          stream.outbound := by
      intro answer stream
      cases judge answer <;> rfl
    rw [transact_of_judge hjudge, Action.bind_keeps Stream.outbound hjudged, Stream.exchange,
      Action.bind_keeps Stream.outbound fun _ _ => rfl]
    rfl

/-- A request is sent, and then nothing more is. -/
theorem perform_outbound (hsync : link.session.desynchronized = false)
    (hrequest : call.request? link.session.device.deviceId = some request) :
    (call.perform link).2.stream.outbound =
      (Outbound.writeFrame request link.stream.outbound).2 := by
  rw [perform_request hrequest, Link.tracked_stream, transactOn_apply, hsync,
    if_neg Bool.false_ne_true, Link.onStream_apply]
  exact call.transact_outbound _ request link.stream

theorem sent_eq_drop (call : Call) (session : Session) (stream : Stream) :
    call.sent session stream = (call.perform { stream, session }).2.stream.outbound.sent.drop
      stream.outbound.sent.length := rfl

/-- A call sends nothing, or the beginning of its request. -/
theorem sent_cases (call : Call) (session : Session) (stream : Stream) :
    call.sent session stream = [] ∨
      ∃ request, call.request? session.device.deviceId = some request ∧
        call.sent session stream <+: request.encode := by
  rw [sent_eq_drop]
  cases hplace : session.desynchronized with
  | true =>
    obtain ⟨outcome, hperform, -, -⟩ := perform_of_lost call { stream, session } hplace
    rw [hperform]
    exact Or.inl List.drop_length
  | false =>
    rcases call.refused_or_request session.device.deviceId with
      ⟨fault, hrefusal, -⟩ | rfl | ⟨request, -, hrequest⟩
    · rw [perform_refused hrefusal]
      exact Or.inl List.drop_length
    · exact Or.inl List.drop_length
    · refine Or.inr ⟨request, hrequest, ?_⟩
      rw [perform_outbound hplace hrequest]
      rcases hwrite : Outbound.writeFrame request stream.outbound with ⟨outcome, after⟩
      have hsending := Outbound.writeFrame_sending hwrite
      obtain ⟨part, hpart, hsent⟩ := hsending.sent_prefix
      rw [hsent, List.drop_left]
      exact hpart

/-- A call that gets as many bytes out as its request has, has sent its request. -/
theorem sent_eq_of_length {session : Session} {stream : Stream}
    (h : headerSize + call.bodySize ≤ (call.sent session stream).length) :
    ∃ request, call.request? session.device.deviceId = some request ∧
      call.sent session stream = request.encode := by
  rcases call.sent_cases session stream with hnone | ⟨request, hrequest, hprefix⟩
  · rw [hnone, List.length_nil, headerSize] at h
    omega
  · rw [← length_encode_of_request hrequest] at h
    exact ⟨request, hrequest, hprefix.eq_of_length_le h⟩

/-- A stream with enough room takes the whole request. -/
theorem sent_of_admits {session : Session} {stream : Stream}
    (hsync : session.desynchronized = false) (haccepted : call.refusal = none)
    (hrelease : call ≠ .release)
    (hadmits : stream.outbound.Admits (headerSize + call.bodySize)) :
    headerSize + call.bodySize ≤ (call.sent session stream).length := by
  rcases call.refused_or_request session.device.deviceId with
    ⟨fault, hrefusal, -⟩ | rfl | ⟨request, -, hrequest⟩
  · cases haccepted.symm.trans hrefusal
  · exact absurd rfl hrelease
  · rw [← length_encode_of_request hrequest] at hadmits ⊢
    rw [sent_eq_drop, perform_outbound hsync hrequest, Outbound.writeFrame_sent hadmits,
      List.drop_left]

/-! ## Numbers and bytes -/

/-- Writing a number is writing its bytes, lowest first. -/
theorem perform_writeWord {width : Width} {value : BitVec width.bits} {data : List UInt8}
    (offset : UInt32) (hwide : data.length = width.bytes)
    (hdigits : Nat.ofDigits 256 (data.map UInt8.toNat) = value.toNat) :
    (writeWord width offset value).perform = (writeBytes width offset data).perform := by
  have hdata : Word.encode width.bytes value.toNat = data := by
    rw [← hwide, ← hdigits, ← Word.decode_eq_ofDigits, Word.encode_decode]
  have hbytes : Link.writeBytes width offset data = Link.write offset data := if_pos hwide
  show (do Link.writeWord width offset value; pure Reply.nothing) =
    (do Link.writeBytes width offset data; pure Reply.nothing)
  rw [hbytes, Link.writeWord, hdata]

end Call

theorem Client.record_writeWord {width : Width} {value : BitVec width.bits} {data : List UInt8}
    (offset : UInt32) (hwide : data.length = width.bytes)
    (hdigits : Nat.ofDigits 256 (data.map UInt8.toNat) = value.toNat) (client : Client) :
    client.record (.call (.writeWord width offset value)) =
      client.record (.call (.writeBytes width offset data)) := by
  have hcall : client.call (.writeWord width offset value) =
      client.call (.writeBytes width offset data) := by
    unfold Client.call
    rw [Call.perform_writeWord offset hwide hdigits]
    rfl
  have hperform : client.perform (.call (.writeWord width offset value)) =
      client.perform (.call (.writeBytes width offset data)) := hcall
  rw [Client.record, Client.record, hperform]

/-! ## From the caller to the server -/

/-- A call whose request is written to its end has sent one frame, which the server receives and
decodes to what the caller asked of the device of the session. Writing a number and writing its
bytes is the same. Two reads get the same answer and leave the same behind, wherever they read. -/
theorem calls_conveyed :
    (∀ (call : Call) (session : Session) (stream : Stream),
      headerSize + call.bodySize ≤ (call.sent session stream).length →
        ∃ frame, call.sent session stream = frame.encode ∧
          call.Conveyed session.device.deviceId frame ∧
          ∀ (peer : Stream) (rest : List UInt8),
            peer.inbound.unread = call.sent session stream ++ rest →
              ∃ after, Stream.readFrame none peer = (.done frame, after) ∧
                after.inbound.unread = rest) ∧
    (∀ (call : Call) (session : Session) (stream : Stream), session.desynchronized = false →
      call.refusal = none → call ≠ .release →
        stream.outbound.Admits (headerSize + call.bodySize) →
          headerSize + call.bodySize ≤ (call.sent session stream).length) ∧
    (∀ (width : Width) (offset : UInt32) (value : BitVec width.bits) (data : List UInt8)
      (client : Client), data.length = width.bytes →
        Nat.ofDigits 256 (data.map UInt8.toNat) = value.toNat →
          client.record (.call (.writeWord width offset value)) =
            client.record (.call (.writeBytes width offset data))) ∧
    ∀ (call other : Call) (client : Client), call.isRead = true → other.isRead = true →
      (client.record (.call other)).1.answer = (client.record (.call call)).1.answer ∧
        (client.record (.call other)).2.stream.inbound =
          (client.record (.call call)).2.stream.inbound ∧
        (client.record (.call other)).2.session = (client.record (.call call)).2.session := by
  refine ⟨fun call session stream hwritten => ?_, fun call session stream => Call.sent_of_admits,
    fun width offset value data client hwide hdigits => ?_,
    fun call other client hcall hother => Client.reads_alike hcall hother client⟩
  · obtain ⟨frame, hrequest, hsent⟩ := Call.sent_eq_of_length hwritten
    refine ⟨frame, hsent, Call.conveyed_of_request hrequest, fun peer rest hunread => ?_⟩
    rw [hsent] at hunread
    obtain ⟨after, hread, hrest, -⟩ := Stream.readFrame_of_frame hunread
    exact ⟨after, hread, hrest⟩
  · exact Client.record_writeWord offset hwide hdigits client

/-- A 16-bit number on a stream with room for its request and nothing more: the server finds the
device, the register and the two bytes, and the caller might have written these bytes itself. -/
theorem calls_conveyed_word :
    let call : Call := .writeWord .w16 258 0x0a0b#16
    let session : Session := { devices := [⟨1, 7⟩], device := ⟨1, 7⟩, limit := none }
    let stream : Stream :=
      { inbound := ⟨[], .closed⟩, outbound := { chunk := some 5, room := some 12 } }
    let client : Client := { stream, session := some session }
    (∃ frame, call.sent session stream = frame.encode ∧ call.Conveyed 7 frame ∧
      ∃ after, Stream.readFrame none ⟨⟨[⟨4, frame.encode⟩], .silent⟩, {}⟩ = (.done frame, after)) ∧
      client.record (.call call) =
        client.record (.call (.writeBytes .w16 258 [0x0b, 0x0a])) ∧
      (client.record (.call (.read 4 1))).1.answer =
        (client.record (.call (.readWord .w64 8))).1.answer := by
  intro call session stream client
  obtain ⟨hconveyed, hadmitted, hbytes, hreads⟩ := calls_conveyed
  have hroom : stream.outbound.Admits (headerSize + call.bodySize) := by
    refine ⟨nofun, fun count hcount => ?_⟩
    obtain rfl := Option.some.inj hcount
    decide
  have hwritten := hadmitted call session stream rfl rfl nofun hroom
  obtain ⟨frame, hsent, hdecoded, hpeer⟩ := hconveyed call session stream hwritten
  refine ⟨⟨frame, hsent, hdecoded, ?_⟩, ?_, ?_⟩
  · obtain ⟨after, hafter, -⟩ := hpeer ⟨⟨[⟨4, frame.encode⟩], .silent⟩, {}⟩ [] (by rw [hsent]; rfl)
    exact ⟨after, hafter⟩
  · exact hbytes .w16 258 0x0a0b#16 [0x0b, 0x0a] client rfl (by decide)
  · exact (hreads (.readWord .w64 8) (.read 4 1) client rfl rfl).1

end RegisterLink
