import RegisterLink.Error
import RegisterLink.Proofs.Descriptor.Packing

/-!
# Descriptors that are read can be packed again

Any bytes that are long enough for an item are read as a descriptor, whatever they are. Its texts
have no zero character, but what stands in for broken bytes takes three bytes for each, so a text
may no longer fit its field. If all fit, packing gives an item that reads the same; it is the item
that was read only if every field of that was filled the way packing fills it.
-/
namespace RegisterLink.Descriptor

/-- A text without the zero character in UTF-8, and zero bytes only behind it. -/
def Clean (bytes : List UInt8) : Prop :=
  ∃ (text : String) (filling : Nat), Utf8.NulFree text ∧
    bytes = Utf8.encode text ++ List.replicate filling 0

theorem nulFree_unpackText (bytes : List UInt8) : Utf8.NulFree (unpackText bytes) := by
  apply Utf8.nulFree_decode
  intro hmem
  have hnot := List.mem_takeWhile_imp hmem
  simp at hnot

theorem nulFree_ofBytes (bytes : List UInt8) : (ofBytes bytes).NulFree := by
  intro field
  rw [field_ofBytes]
  exact nulFree_unpackText _

theorem length_fieldBytes {bytes : List UInt8} (h : descriptorSize ≤ bytes.length)
    (field : DescriptorField) : (fieldBytes bytes field).length = fieldWidth := by
  have hwidth : fieldWidth = 128 := rfl
  have hsize : descriptorSize = 396 := rfl
  cases field <;> simp only [fieldBytes, List.length_take, List.length_drop] <;> omega

/-- A field is packed again as it was exactly when packing could have filled it. -/
theorem packText_unpackText_iff {bytes : List UInt8} (h : bytes.length = fieldWidth) :
    packText (unpackText bytes) = bytes ↔ Clean bytes := by
  constructor
  · intro hsame
    exact ⟨unpackText bytes, _, nulFree_unpackText bytes, hsame.symm⟩
  · rintro ⟨text, filling, hfree, rfl⟩
    have hfilling : fieldWidth - (Utf8.encode text).length = filling := by
      rw [List.length_append, List.length_replicate] at h
      exact Nat.sub_eq_of_eq_add' h.symm
    have htext : unpackText (Utf8.encode text ++ List.replicate filling 0) = text := by
      rw [unpackText, Utf8.takeWhile_encode, Utf8.decode_encode, Utf8.beforeNul_of_nulFree hfree]
    rw [htext, packText, hfilling]

/-- An item is its three text fields and the version behind them. -/
theorem item_eq_fields {item : List UInt8} (h : item.length = descriptorSize) :
    item = fieldBytes item .name ++ fieldBytes item .vendor ++ fieldBytes item .deviceType ++
      (Version.ofBytes (item.drop (3 * fieldWidth))).encode := by
  have hsize : versionSize = (item.drop (3 * fieldWidth)).length := by
    rw [List.length_drop, h]
    rfl
  rw [Version.encode_ofBytes (Nat.le_of_eq hsize), hsize, List.take_length]
  simp only [fieldBytes]
  rw [Nat.two_mul, ← List.take_add, ← List.take_add]
  exact (List.take_append_drop (3 * fieldWidth) item).symm

/-- The item that was read is packed again exactly when each field could have been packed. -/
theorem append_ofBytes_iff {item : List UInt8} (h : item.length = descriptorSize)
    (buffer : List UInt8) :
    (ofBytes item).append buffer = (.ok (), buffer ++ item) ↔
      ∀ field, Clean (fieldBytes item field) := by
  have hlength := length_fieldBytes (Nat.le_of_eq h.symm)
  rw [append_eq_ok_iff]
  constructor
  · rintro ⟨hfits, hsame⟩ field
    have hfield := fieldBytes_item hfits [] field
    rw [List.append_nil, ← hsame, field_ofBytes] at hfield
    exact (packText_unpackText_iff (hlength field)).mp hfield.symm
  · intro hclean
    have hfield : ∀ field, packText ((ofBytes item).field field) = fieldBytes item field := by
      intro field
      rw [field_ofBytes]
      exact (packText_unpackText_iff (hlength field)).mpr (hclean field)
    refine ⟨fun field => ?_, ?_⟩
    · have hsize := congrArg List.length (hfield field)
      rw [packText, List.length_append, hlength field] at hsize
      exact Nat.le.intro hsize
    · rw [Descriptor.item, ← field, ← field, ← field, hfield, hfield, hfield]
      exact item_eq_fields h

/-- What packing makes of a descriptor that was read from an item. -/
structure Repacking (item : List UInt8) (descriptor : Descriptor) : Prop where
  nulFree : descriptor.NulFree
  packs_iff : ∀ buffer,
    (descriptor.append buffer).1 = .ok () ↔ ∀ field, descriptor.textSize field ≤ 128
  stable : ∀ buffer packed, descriptor.append buffer = (.ok (), packed) →
    ∃ again, packed = buffer ++ again ∧ consume again = (.ok descriptor, [])
  same_iff : ∀ buffer,
    descriptor.append buffer = (.ok (), buffer ++ item) ↔ ∀ field, Clean (fieldBytes item field)

theorem repacking_ofBytes {item : List UInt8} (h : item.length = descriptorSize) :
    Repacking item (ofBytes item) where
  nulFree := nulFree_ofBytes item
  packs_iff := append_fst_eq_ok_iff
  stable := by
    intro buffer packed hpacked
    have hfits : (ofBytes item).Fits :=
      (append_fst_eq_ok_iff buffer).mp (congrArg Prod.fst hpacked)
    rw [append_of_fits hfits] at hpacked
    refine ⟨(ofBytes item).item, (Prod.mk.inj hpacked).2.symm, ?_⟩
    have hback := consume_item hfits []
    rwa [List.append_nil, beforeNul_of_nulFree (nulFree_ofBytes item)] at hback
  same_iff := append_ofBytes_iff h

/-- How reading from the front of a buffer ends, and what it leaves. -/
inductive Unpacking (bytes : List UInt8) : Except Error Descriptor → List UInt8 → Prop
  | read {descriptor : Descriptor} (long : 396 ≤ bytes.length)
      (again : Repacking (bytes.take 396) descriptor) :
      Unpacking bytes (.ok descriptor) (bytes.drop 396)
  | refused (short : bytes.length < 396) :
      Unpacking bytes (.error (.protocol (.malformed (.descriptorTooShort bytes.length)))) bytes

theorem consume_unpacking (bytes : List UInt8) :
    Unpacking bytes (Malformed.reported (consume bytes).1) (consume bytes).2 := by
  by_cases hshort : bytes.length < descriptorSize
  · rw [consume_of_lt hshort]
    exact .refused hshort
  · have hlong : descriptorSize ≤ bytes.length := Nat.le_of_not_lt hshort
    have hitem : (bytes.take descriptorSize).length = descriptorSize :=
      List.length_take_of_le hlong
    have hagain := repacking_ofBytes hitem
    rw [ofBytes_take] at hagain
    rw [consume_of_le hlong]
    exact .read hlong hagain

/-! ## Texts that grow -/

theorem decodeFrom_broken (count : Nat) :
    Utf8.decodeFrom none (List.replicate count 0xFF) = List.replicate count Utf8.replacement := by
  induction count with
  | zero => rfl
  | succ count ih =>
    rw [List.replicate_succ, List.replicate_succ, Utf8.decodeFrom_cons]
    exact congrArg (Utf8.replacement :: ·) ih

/-- Bytes that begin no character are read as a text three times as long. -/
theorem length_unpackText_broken (count : Nat) :
    (Utf8.encode (unpackText (List.replicate count 0xFF))).length = 3 * count := by
  have hwhole : (List.replicate count (0xFF : UInt8)).takeWhile (· != 0) =
      List.replicate count 0xFF := by
    rw [List.takeWhile_replicate]
    rfl
  have hsize : (String.utf8EncodeChar Utf8.replacement).length = 3 := by decide
  rw [unpackText, hwhole, Utf8.decode, decodeFrom_broken, Utf8.encode, String.toList_ofList,
    List.length_flatMap, List.map_replicate, hsize, List.sum_replicate_nat, Nat.mul_comm]

theorem exists_overlong : ∃ item descriptor, consume item = (.ok descriptor, []) ∧
    ∃ field, 128 < descriptor.textSize field := by
  let item : List UInt8 := List.replicate descriptorSize 0xFF
  have hsize : item.length = descriptorSize := List.length_replicate
  have hname : fieldBytes item .name = List.replicate fieldWidth 0xFF := by
    rw [fieldBytes, List.take_replicate]
    rfl
  refine ⟨item, ofBytes item, ?_, .name, ?_⟩
  · rw [consume_of_le (Nat.le_of_eq hsize.symm), ← hsize, List.drop_length]
  · rw [textSize, field_ofBytes, hname, length_unpackText_broken]
    decide

/-- Bytes that are long enough for an item are always read, and as a descriptor that can be packed
again unless its texts have grown; shorter ones are left as they are. -/
theorem unpacked_whole_or_refused :
    (∀ bytes, Unpacking bytes (Malformed.reported (consume bytes).1) (consume bytes).2) ∧
    ∃ item descriptor, consume item = (.ok descriptor, []) ∧
      ∃ field, 128 < descriptor.textSize field :=
  ⟨consume_unpacking, exists_overlong⟩

end RegisterLink.Descriptor
