import Mathlib.Data.List.GetD
import RegisterLink.Proofs.Message.Access
import RegisterLink.Proofs.Message.Query

/-!
# Bodies without loss

Read requests, write requests and lists of devices are laid out without loss: what is written is
read back, and a body that is read is the one its content is written to. The one exception is a
write request whose size field tells more bytes than a frame has room for beside the fixed part. It
can be read from a string of bytes that is longer than any frame, but not be written again.
-/
namespace RegisterLink

variable {α : Type}

/-- Writing and reading are inverse on the values that fit the layout. The whole bodies are those
that can be read. -/
structure Lossless (encode : α → Except InvalidArgument (List UInt8))
    (decode : List UInt8 → Except Malformed α) (Fits : α → Prop) (Whole : List UInt8 → Prop) :
    Prop where
  writable : ∀ value, (∃ body, encode value = .ok body) ↔ Fits value
  readable : ∀ body, (∃ value, decode body = .ok value) ↔ Whole body
  back : ∀ value body, encode value = .ok body → decode body = .ok value
  again : ∀ value body, decode body = .ok value → Fits value → encode value = .ok body

/-- A layout with room for every value is without loss if reading is the inverse of writing. -/
theorem lossless_of_iff {encode : α → List UInt8} {decode : List UInt8 → Except Malformed α}
    {Whole : List UInt8 → Prop} (hiff : ∀ body value, decode body = .ok value ↔ encode value = body)
    (hwhole : ∀ body, (∃ value, decode body = .ok value) ↔ Whole body) :
    Lossless (fun value => .ok (encode value)) decode (fun _ => True) Whole where
  writable _ := iff_true_intro ⟨_, rfl⟩
  readable := hwhole
  back value body h := (hiff body value).mpr (Except.ok.inj h)
  again value body h _ := congrArg Except.ok ((hiff body value).mp h)

/-- A body that is read on one condition can be read exactly if the condition holds. -/
theorem readable_ite {condition : Prop} [Decidable condition] {value : α} {fault : Malformed} :
    (∃ found, (if condition then .ok value else .error fault : Except Malformed α) = .ok found) ↔
      condition := by
  split <;> simp [*]

theorem QueryResponse.pairs_of_decode {body : List UInt8} {devices : List DeviceEntry}
    (h : decode body = .ok devices) :
    devices = pairs body ∧ devices.length = body.length / 2 := by
  rw [decode] at h
  split at h
  · obtain rfl := Except.ok.inj h
    rw [entries_eq_pairs]
    exact ⟨rfl, length_pairs body⟩
  · cases h

namespace WriteRequest

/-- What the size field of a body tells. -/
def declaredSize (body : List UInt8) : Nat :=
  (body.getD 5 0).toNat + 256 * (body.getD 6 0).toNat

theorem toNat_accessSize_eq {body : List UInt8} (h : 7 ≤ body.length) :
    (accessSize body).toNat = declaredSize body := by
  rw [toNat_accessSize, List.drop_eq_getElem_cons (show 5 < body.length by omega),
    List.drop_eq_getElem_cons (show 6 < body.length by omega), declaredSize,
    List.getD_eq_getElem _ _ (show 5 < body.length by omega),
    List.getD_eq_getElem _ _ (show 6 < body.length by omega)]
  rfl

theorem readable_iff (body : List UInt8) :
    (∃ request, decode body = .ok request) ↔
      7 ≤ body.length ∧ declaredSize body = body.length - 7 := by
  by_cases hshort : body.length < accessHeaderSize
  · simp only [decode, if_pos hshort, reduceCtorEq, exists_false, false_iff]
    exact fun h => absurd h.1 (Nat.not_le.mpr hshort)
  · have hheader : 7 ≤ body.length := Nat.le_of_not_lt hshort
    rw [decode, if_neg hshort]
    dsimp only
    rw [List.length_drop, toNat_accessSize_eq hheader, accessHeaderSize, readable_ite, eq_comm,
      and_iff_right hheader]

theorem lossless :
    Lossless encode decode (fun request => request.data.length ≤ 65528)
      (fun body => 7 ≤ body.length ∧ declaredSize body = body.length - 7) where
  writable request := by
    simp only [encode_eq_ok_iff]
    exact ⟨fun ⟨_, hfits, _⟩ => hfits, fun hfits => ⟨_, hfits, rfl⟩⟩
  readable := readable_iff
  back _ _ := decode_of_encode
  again _ _ h hfits := encode_eq_ok_iff.mpr ⟨hfits, (decode_eq_ok_iff.mp h).2⟩

variable {request : WriteRequest} {body : List UInt8}

theorem length_of_decode (h : decode body = .ok request) :
    body.length = 7 + request.data.length := by
  obtain ⟨-, rfl⟩ := decode_eq_ok_iff.mp h
  rw [List.length_append, length_encodeAccess, accessHeaderSize]

/-- A request that was read is written as the body it was read from, if that fits a frame. -/
theorem encode_of_decode (h : decode body = .ok request) :
    request.encode =
      if body.length ≤ 65535 then .ok body else .error (.payloadTooLong (body.length - 7)) := by
  have hlength := length_of_decode h
  split
  · exact lossless.again _ _ h (by omega)
  · -- The size field can tell seven bytes more than a frame has room for behind the fixed part.
    rw [encode, if_pos (by rw [maxPayloadSize, maxBodySize, accessHeaderSize]; omega), hlength,
      Nat.add_sub_cancel_left]

/-- A body that was written: its size field is not cut short, and it fits a frame. -/
theorem framed_of_encode (h : encode request = .ok body) :
    body.length = 7 + request.data.length ∧ declaredSize body = request.data.length ∧
      ∀ command, ∃ frame, Frame.ofBody command body = .ok frame ∧ frame.body = body := by
  have hdecode := decode_of_encode h
  have hlength := length_of_decode hdecode
  obtain ⟨-, hdeclared⟩ := (readable_iff body).mp ⟨request, hdecode⟩
  have hfits : body.length ≤ maxBodySize := by
    have hpayload := (encode_eq_ok_iff.mp h).1
    rw [maxBodySize]
    omega
  exact ⟨hlength, by omega, fun command => ⟨_, Frame.ofBody_eq_ok hfits, rfl⟩⟩

end WriteRequest

/-- Read requests, lists of devices and write requests are read back from what they are written to,
and written back to what they are read from. The bodies that can be read are known from their length
and from a size field, which is exact whenever it is written; and only a write request that came
from more bytes than a frame can carry is not written again. -/
theorem bodies_read_back :
    Lossless (fun request => .ok (ReadRequest.encode request)) ReadRequest.decode (fun _ => True)
      (fun body => body.length = 7) ∧
    Lossless (fun devices => .ok (QueryResponse.encode devices)) QueryResponse.decode
      (fun _ => True) (fun body => body.length % 2 = 0) ∧
    Lossless WriteRequest.encode WriteRequest.decode (fun request => request.data.length ≤ 65528)
      (fun body => 7 ≤ body.length ∧ WriteRequest.declaredSize body = body.length - 7) ∧
    (∀ body devices, QueryResponse.decode body = .ok devices →
      devices = QueryResponse.pairs body ∧ devices.length = body.length / 2) ∧
    (∀ body request, WriteRequest.decode body = .ok request → request.encode =
      if body.length ≤ 65535 then .ok body else .error (.payloadTooLong (body.length - 7))) ∧
    ∀ request body, WriteRequest.encode request = .ok body →
      body.length = 7 + request.data.length ∧
      WriteRequest.declaredSize body = request.data.length ∧
      ∀ command, ∃ frame, Frame.ofBody command body = .ok frame ∧ frame.body = body := by
  exact ⟨lossless_of_iff (fun _ _ => ReadRequest.decode_eq_ok_iff) (fun _ => readable_ite),
    lossless_of_iff (fun _ _ => QueryResponse.decode_eq_ok_iff) (fun _ => readable_ite),
    WriteRequest.lossless, fun _ _ => QueryResponse.pairs_of_decode,
    fun _ _ => WriteRequest.encode_of_decode, fun _ _ => WriteRequest.framed_of_encode⟩

/-- One byte is written and read back in a frame. So many bytes that no frame can carry them are
read but not written. -/
theorem bodies_read_back_unframed :
    let short : WriteRequest := ⟨1, 64, [7]⟩
    let long : WriteRequest := ⟨1, 64, List.replicate 65535 0⟩
    let body := encodeAccess 1 64 65535 ++ long.data
    WriteRequest.decode [1, 64, 0, 0, 0, 1, 0, 7] = .ok short ∧
      (∃ frame, Frame.ofBody Command.write.byte [1, 64, 0, 0, 0, 1, 0, 7] = .ok frame) ∧
      QueryResponse.decode [3, 1, 3, 2] = .ok (QueryResponse.pairs [3, 1, 3, 2]) ∧
      WriteRequest.decode body = .ok long ∧ body.length = 65542 ∧
      long.encode = .error (.payloadTooLong 65535) := by
  intro short long body
  have hwritten : short.encode = .ok [1, 64, 0, 0, 0, 1, 0, 7] := by decide
  obtain ⟨-, -, hwrites, hdevices, hagain, hframed⟩ := bodies_read_back
  obtain ⟨frame, hframe, -⟩ := (hframed _ _ hwritten).2.2 Command.write.byte
  have hlisted : QueryResponse.decode [3, 1, 3, 2] = .ok [⟨3, 1⟩, ⟨3, 2⟩] := by decide
  have hdata : long.data.length = 65535 := List.length_replicate
  have hbody : encodeAccess 1 64 (UInt16.ofNat long.data.length) ++ long.data = body := by
    rw [hdata]
    rfl
  have hread : WriteRequest.decode body = .ok long :=
    WriteRequest.decode_eq_ok_iff.mpr ⟨hdata.le, hbody⟩
  have hlength : body.length = 65542 := by
    rw [List.length_append, length_encodeAccess, hdata, accessHeaderSize]
  have hrefused := hagain body long hread
  rw [hlength] at hrefused
  rw [← (hdevices _ _ hlisted).1]
  exact ⟨hwrites.back _ _ hwritten, ⟨frame, hframe⟩, hlisted, hread, hlength, hrefused⟩

end RegisterLink
