import RegisterLink.Link.Handshake
import RegisterLink.Proofs.Descriptor.Packing

/-!
# Queries that can be sent

A list of descriptors becomes a query exactly when it is short enough and every text fits its field;
the body is then as long as the list tells. The answer's body is read as pairs of bytes, in order,
and is what these pairs are written to.
-/
namespace RegisterLink

/-- Lists that no query can carry: too long for a frame, or with a text too long for its field. -/
def Unpackable (descriptors : List Descriptor) : Prop :=
  65535 < descriptors.length * 396 ∨ ∃ descriptor ∈ descriptors, ¬ descriptor.Fits

namespace Query

/-- The items stand one behind the other, unless a descriptor is refused: the first one decides. -/
theorem encodeItems_eq (descriptors : List Descriptor) :
    encodeItems descriptors =
      match descriptors.findSome? Descriptor.fault? with
      | none => .ok (descriptors.flatMap Descriptor.item)
      | some fault => .error fault := by
  induction descriptors with
  | nil => rfl
  | cons descriptor rest ih =>
    rw [encodeItems, Descriptor.encode_eq_fault?, ih, List.findSome?_cons]
    cases descriptor.fault? with
    | some fault => rfl
    | none => cases rest.findSome? Descriptor.fault? <;> rfl

theorem findSome?_fault?_eq_none_iff {descriptors : List Descriptor} :
    descriptors.findSome? Descriptor.fault? = none ↔
      ∀ descriptor ∈ descriptors, descriptor.Fits := by
  simp only [List.findSome?_eq_none_iff, Descriptor.fault?_eq_none_iff]

theorem length_items {descriptors : List Descriptor}
    (h : ∀ descriptor ∈ descriptors, descriptor.Fits) :
    (descriptors.flatMap Descriptor.item).length = descriptors.length * descriptorSize := by
  induction descriptors with
  | nil => rfl
  | cons descriptor rest ih =>
    obtain ⟨hfits, hrest⟩ := List.forall_mem_cons.mp h
    rw [List.flatMap_cons, List.length_append, Descriptor.length_item hfits, ih hrest,
      List.length_cons, Nat.succ_mul, Nat.add_comm]

theorem encodeItems_of_fits {descriptors : List Descriptor}
    (h : ∀ descriptor ∈ descriptors, descriptor.Fits) :
    encodeItems descriptors = .ok (descriptors.flatMap Descriptor.item) := by
  rw [encodeItems_eq, findSome?_fault?_eq_none_iff.mpr h]

theorem encodeItems_of_not_fits {descriptors : List Descriptor}
    (h : ∃ descriptor ∈ descriptors, ¬ descriptor.Fits) :
    ∃ fault, encodeItems descriptors = .error fault := by
  rw [encodeItems_eq]
  cases hfault : descriptors.findSome? Descriptor.fault? with
  | some fault => exact ⟨fault, rfl⟩
  | none =>
    obtain ⟨descriptor, hmem, hnot⟩ := h
    exact absurd (findSome?_fault?_eq_none_iff.mp hfault descriptor hmem) hnot

theorem encode_of_unpackable {descriptors : List Descriptor} (h : Unpackable descriptors) :
    ∃ fault, encode descriptors = .error fault := by
  by_cases hlong : maxBodySize < descriptors.length * descriptorSize
  · exact ⟨_, if_pos hlong⟩
  · rw [encode, if_neg hlong]
    exact encodeItems_of_not_fits (h.resolve_left hlong)

theorem encode_of_packable {descriptors : List Descriptor} (h : ¬ Unpackable descriptors) :
    ∃ body, encode descriptors = .ok body ∧ body.length = descriptors.length * descriptorSize ∧
      body.length ≤ maxBodySize := by
  obtain ⟨hshort, hfits⟩ := not_or.mp h
  have hlength : ¬ maxBodySize < descriptors.length * descriptorSize := hshort
  have hall : ∀ descriptor ∈ descriptors, descriptor.Fits := fun descriptor hmem =>
    Classical.not_not.mp fun hnot => hfits ⟨descriptor, hmem, hnot⟩
  have hsize := length_items hall
  refine ⟨descriptors.flatMap Descriptor.item, ?_, hsize, ?_⟩
  · rw [encode, if_neg hlength, encodeItems_of_fits hall]
  · rw [hsize]
    exact Nat.le_of_not_lt hlength

/-- The frame that asks for a list of descriptors. -/
structure Carries (query : Frame) (descriptors : List Descriptor) : Prop where
  command : query.command = Command.query.byte
  packed : encode descriptors = .ok query.body

theorem frame_of_carries {query : Frame} {descriptors : List Descriptor}
    (h : Carries query descriptors) : frame descriptors = .ok query := by
  obtain ⟨command, body, hfits⟩ := query
  obtain ⟨rfl, hbody⟩ := h
  rw [frame, hbody]
  show Command.query.frame body = _
  rw [Command.frame, Frame.ofBody_eq_ok hfits]
  rfl

theorem exists_carries {descriptors : List Descriptor} (h : ¬ Unpackable descriptors) :
    ∃ query, Carries query descriptors := by
  obtain ⟨body, hbody, -, hfits⟩ := encode_of_packable h
  exact ⟨⟨Command.query.byte, body, hfits⟩, rfl, hbody⟩

theorem frame_of_unpackable {descriptors : List Descriptor} (h : Unpackable descriptors) :
    ∃ fault, frame descriptors = .error (.invalidArgument fault) := by
  obtain ⟨fault, hfault⟩ := encode_of_unpackable h
  exact ⟨fault, by rw [frame, hfault]; rfl⟩

end Query

namespace QueryResponse

/-- The entries of a body by position: type index and device id side by side. -/
def pairs (body : List UInt8) : List DeviceEntry :=
  (List.range (body.length / 2)).map fun i => ⟨body.getD (2 * i) 0, body.getD (2 * i + 1) 0⟩

theorem entries_eq_pairs (body : List UInt8) : entries body = pairs body := by
  fun_induction entries body with
  | case1 typeIndex deviceId rest ih =>
    have hlength : (typeIndex :: deviceId :: rest).length / 2 = rest.length / 2 + 1 := by
      rw [List.length_cons, List.length_cons]
      omega
    rw [ih, pairs, pairs, hlength, List.range_succ_eq_map, List.map_cons, List.map_map]
    rfl
  | case2 body hshort =>
    have hlength : body.length / 2 = 0 := by
      match body with
      | [] => rfl
      | [_] => exact (by decide : 1 / 2 = 0)
      | typeIndex :: deviceId :: rest => exact absurd rfl (hshort typeIndex deviceId rest)
    rw [pairs, hlength]
    rfl

theorem length_pairs (body : List UInt8) : (pairs body).length = body.length / 2 := by
  rw [pairs, List.length_map, List.length_range]

theorem encode_cons (entry : DeviceEntry) (rest : List DeviceEntry) :
    encode (entry :: rest) = entry.typeIndex :: entry.deviceId :: encode rest := rfl

theorem length_encode (devices : List DeviceEntry) :
    (encode devices).length = 2 * devices.length := by
  induction devices with
  | nil => rfl
  | cons entry rest ih =>
    rw [encode_cons, List.length_cons, List.length_cons, List.length_cons, ih]
    omega

theorem entries_encode (devices : List DeviceEntry) : entries (encode devices) = devices := by
  induction devices with
  | nil => rfl
  | cons entry rest ih => rw [encode_cons, entries, ih]

theorem encode_entries {body : List UInt8} (h : body.length % 2 = 0) :
    encode (entries body) = body := by
  fun_induction entries body with
  | case1 typeIndex deviceId rest ih =>
    rw [List.length_cons, List.length_cons] at h
    rw [encode_cons, ih (by omega)]
  | case2 body hshort =>
    match body with
    | [] => rfl
    | [_] => exact absurd h (by decide : ¬ 1 % 2 = 0)
    | typeIndex :: deviceId :: rest => exact absurd rfl (hshort typeIndex deviceId rest)

theorem decode_eq_ok_iff {body : List UInt8} {devices : List DeviceEntry} :
    decode body = .ok devices ↔ encode devices = body := by
  constructor
  · intro h
    rw [decode] at h
    split at h
    · obtain rfl := Except.ok.inj h
      exact encode_entries ‹_›
    · cases h
  · rintro rfl
    have heven : (encode devices).length % 2 = 0 := by
      rw [length_encode]
      omega
    rw [decode, if_pos heven, entries_encode]

end QueryResponse

end RegisterLink
