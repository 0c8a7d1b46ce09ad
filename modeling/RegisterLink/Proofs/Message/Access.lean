import RegisterLink.Message.Access
import RegisterLink.Proofs.Bytes.Word

/-!
# Access requests there and back

A server that decodes the body of a request finds the device, the offset and the size or the bytes
it was made from. A body that can be decoded is the layout of what is found in it.
-/
namespace RegisterLink

section Access

variable (deviceId : UInt8) (offset : UInt32) (size : UInt16) (rest : List UInt8)

@[simp] theorem accessDevice_encodeAccess :
    accessDevice (encodeAccess deviceId offset size ++ rest) = deviceId := rfl

@[simp] theorem accessOffset_encodeAccess :
    accessOffset (encodeAccess deviceId offset size ++ rest) = offset := by
  have hword : ((encodeAccess deviceId offset size ++ rest).drop 1).take 4 =
      Word.encode 4 offset.toNat := by
    rw [encodeAccess, List.cons_append, List.drop_succ_cons, List.drop_zero, List.append_assoc]
    exact List.take_left' (Word.length_encode 4 _)
  rw [accessOffset, hword, Word.decode_encode_of_lt offset.toNat_lt, UInt32.ofNat_toNat]

@[simp] theorem accessSize_encodeAccess :
    accessSize (encodeAccess deviceId offset size ++ rest) = size := by
  have hword : ((encodeAccess deviceId offset size ++ rest).drop 5).take 2 =
      Word.encode 2 size.toNat := by
    rw [encodeAccess, List.cons_append, List.drop_succ_cons, List.append_assoc,
      List.drop_left' (Word.length_encode 4 _)]
    exact List.take_left' (Word.length_encode 2 _)
  rw [accessSize, hword, Word.decode_encode_of_lt size.toNat_lt, UInt16.ofNat_toNat]

end Access

theorem toNat_accessOffset (body : List UInt8) :
    (accessOffset body).toNat = Word.decode ((body.drop 1).take 4) :=
  UInt32.toNat_ofNat_of_lt' (Word.decode_take_lt 4 _)

theorem toNat_accessSize (body : List UInt8) :
    (accessSize body).toNat = Word.decode ((body.drop 5).take 2) :=
  UInt16.toNat_ofNat_of_lt' (Word.decode_take_lt 2 _)

/-- The fixed part that is read from a body is the one it begins with. -/
theorem encodeAccess_access {body : List UInt8} (h : accessHeaderSize ≤ body.length) :
    encodeAccess (accessDevice body) (accessOffset body) (accessSize body) =
      body.take accessHeaderSize := by
  rw [accessHeaderSize] at h
  have hoffset : ((body.drop 1).take 4).length = 4 := by
    rw [List.length_take, List.length_drop]
    omega
  have hsize : ((body.drop 5).take 2).length = 2 := by
    rw [List.length_take, List.length_drop]
    omega
  rw [encodeAccess, toNat_accessOffset, toNat_accessSize, Word.encode_decode_of_length hoffset,
    Word.encode_decode_of_length hsize]
  obtain ⟨device, rest, rfl⟩ : ∃ device rest, body = device :: rest :=
    List.exists_cons_of_length_pos (by omega)
  show device :: (rest.take 4 ++ (rest.drop 4).take 2) = device :: rest.take (4 + 2)
  rw [List.take_add]

namespace ReadRequest

theorem decode_encode (request : ReadRequest) : decode request.encode = .ok request := by
  have hbody : request.encode =
      encodeAccess request.deviceId request.offset request.size ++ [] := (List.append_nil _).symm
  have hlength : request.encode.length = accessHeaderSize := length_encodeAccess _ _ _
  rw [decode, if_pos hlength, hbody, accessDevice_encodeAccess, accessOffset_encodeAccess,
    accessSize_encodeAccess]

theorem decode_eq_ok_iff {request : ReadRequest} {body : List UInt8} :
    decode body = .ok request ↔ request.encode = body := by
  constructor
  · intro h
    rw [decode] at h
    split at h
    · rename_i hwhole
      obtain rfl := Except.ok.inj h
      rw [encode, encodeAccess_access hwhole.ge, ← hwhole, List.take_length]
    · cases h
  · rintro rfl
    exact request.decode_encode

end ReadRequest

namespace WriteRequest

/-- The layout is read back for every payload whose size the field can tell. These are more than the
payloads that are written. -/
theorem decode_layout (request : WriteRequest) (h : request.data.length ≤ 65535) :
    decode (encodeAccess request.deviceId request.offset (UInt16.ofNat request.data.length) ++
      request.data) = .ok request := by
  have hsize : (UInt16.ofNat request.data.length).toNat = request.data.length :=
    UInt16.toNat_ofNat_of_lt' (Nat.lt_succ_of_le h)
  have hheader : ¬ (encodeAccess request.deviceId request.offset
      (UInt16.ofNat request.data.length) ++ request.data).length < accessHeaderSize := by
    rw [List.length_append, length_encodeAccess]
    omega
  rw [decode, if_neg hheader]
  dsimp only
  rw [List.drop_left' (length_encodeAccess _ _ _), accessSize_encodeAccess, hsize, if_pos rfl,
    accessDevice_encodeAccess, accessOffset_encodeAccess]

theorem decode_eq_ok_iff {request : WriteRequest} {body : List UInt8} :
    decode body = .ok request ↔ request.data.length ≤ 65535 ∧
      encodeAccess request.deviceId request.offset (UInt16.ofNat request.data.length) ++
        request.data = body := by
  constructor
  · intro h
    rw [decode] at h
    split at h
    · cases h
    · rename_i hheader
      dsimp only at h
      split at h
      · rename_i hsize
        obtain rfl := Except.ok.inj h
        refine ⟨hsize ▸ Nat.le_of_lt_succ (accessSize body).toNat_lt, ?_⟩
        show encodeAccess _ _ (UInt16.ofNat (body.drop accessHeaderSize).length) ++ _ = body
        rw [hsize, UInt16.ofNat_toNat, encodeAccess_access (Nat.le_of_not_lt hheader),
          List.take_append_drop]
      · cases h
  · rintro ⟨hfits, rfl⟩
    exact decode_layout request hfits

theorem encode_eq_ok_iff {request : WriteRequest} {body : List UInt8} :
    encode request = .ok body ↔ request.data.length ≤ 65528 ∧
      encodeAccess request.deviceId request.offset (UInt16.ofNat request.data.length) ++
        request.data = body := by
  rw [encode, maxPayloadSize, maxBodySize, accessHeaderSize]
  split <;> simp <;> omega

/-- The size field tells the number of bytes written for every payload that is accepted. -/
theorem decode_of_encode {request : WriteRequest} {body : List UInt8}
    (h : request.encode = .ok body) : decode body = .ok request := by
  obtain ⟨hfits, hlayout⟩ := encode_eq_ok_iff.mp h
  exact decode_eq_ok_iff.mpr ⟨Nat.le_trans hfits (by decide), hlayout⟩

end WriteRequest

end RegisterLink
