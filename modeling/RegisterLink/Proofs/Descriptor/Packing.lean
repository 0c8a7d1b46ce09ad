import RegisterLink.Descriptor
import RegisterLink.Proofs.Text.Terminator
import RegisterLink.Proofs.Version.Codec

/-!
# Descriptors are packed whole or not at all

A descriptor is refused exactly when one of its texts is longer than its field, and then nothing is
appended. Otherwise one item is appended, in which every text has its field to itself and is filled
up; read back, each text ends at its first zero character, and only what follows the item is left.
-/
namespace RegisterLink.Descriptor

theorem mem_textFields (field : DescriptorField) : field ∈ textFields := by
  cases field <;> decide

/-- A descriptor is its three texts and its version. -/
theorem ext_field {descriptor other : Descriptor}
    (htext : ∀ field, descriptor.field field = other.field field)
    (hversion : descriptor.version = other.version) : descriptor = other := by
  obtain ⟨name, vendor, deviceType, version⟩ := descriptor
  obtain rfl : name = other.name := htext .name
  obtain rfl : vendor = other.vendor := htext .vendor
  obtain rfl : deviceType = other.deviceType := htext .deviceType
  obtain rfl : version = other.version := hversion
  rfl

instance {p : DescriptorField → Prop} [DecidablePred p] : Decidable (∀ field, p field) :=
  decidable_of_iff (∀ field ∈ textFields, p field)
    ⟨fun h field => h field (mem_textFields field), fun h field _ => h field⟩

/-- Bytes that a text takes before it is filled up. -/
def textSize (descriptor : Descriptor) (field : DescriptorField) : Nat :=
  (Utf8.encode (descriptor.field field)).length

def Fits (descriptor : Descriptor) : Prop :=
  ∀ field, (Utf8.encode (descriptor.field field)).length ≤ 128

instance (descriptor : Descriptor) : Decidable descriptor.Fits :=
  inferInstanceAs (Decidable (∀ field, (Utf8.encode (descriptor.field field)).length ≤ 128))

def NulFree (descriptor : Descriptor) : Prop :=
  ∀ field, Utf8.NulFree (descriptor.field field)

instance (descriptor : Descriptor) : Decidable descriptor.NulFree :=
  inferInstanceAs (Decidable (∀ field, Utf8.NulFree (descriptor.field field)))

/-- The descriptor with each text cut before its first zero character. -/
def beforeNul (descriptor : Descriptor) : Descriptor where
  name := Utf8.beforeNul descriptor.name
  vendor := Utf8.beforeNul descriptor.vendor
  deviceType := Utf8.beforeNul descriptor.deviceType
  version := descriptor.version

theorem field_beforeNul (descriptor : Descriptor) (field : DescriptorField) :
    descriptor.beforeNul.field field = Utf8.beforeNul (descriptor.field field) := by
  cases field <;> rfl

theorem beforeNul_of_nulFree {descriptor : Descriptor} (h : descriptor.NulFree) :
    descriptor.beforeNul = descriptor := by
  refine ext_field (fun field => ?_) rfl
  rw [field_beforeNul, Utf8.beforeNul_of_nulFree (h field)]

/-! ## The check of the texts -/

/-- The first text that is too long, in the order of the fields. -/
def overlong? (descriptor : Descriptor) : Option DescriptorField :=
  textFields.find? fun field => 128 < descriptor.textSize field

/-- The checks stop at the first text that is too long. -/
theorem forM_checkField (descriptor : Descriptor) (fields : List DescriptorField) :
    fields.forM descriptor.checkField =
      match fields.find? fun field => 128 < descriptor.textSize field with
      | none => .ok ()
      | some field => .error (.fieldTooLong field (descriptor.textSize field)) := by
  induction fields with
  | nil => rfl
  | cons field fields ih =>
    change (descriptor.checkField field >>= fun _ => fields.forM descriptor.checkField) = _
    rw [List.find?_cons]
    by_cases hlong : 128 < descriptor.textSize field
    · have hfails : descriptor.checkField field =
          .error (.fieldTooLong field (descriptor.textSize field)) := if_pos hlong
      rw [hfails, decide_eq_true hlong]
      rfl
    · have hpasses : descriptor.checkField field = .ok () := if_neg hlong
      rw [hpasses, decide_eq_false hlong, ← ih]
      rfl

theorem overlong?_eq_none_iff {descriptor : Descriptor} :
    descriptor.overlong? = none ↔ descriptor.Fits := by
  rw [overlong?, List.find?_eq_none]
  constructor
  · intro h field
    exact Nat.le_of_not_lt fun hlong => h field (mem_textFields field) (decide_eq_true hlong)
  · intro h field _ hlong
    exact absurd (of_decide_eq_true hlong) (Nat.not_lt.mpr (h field))

theorem lt_of_overlong? {descriptor : Descriptor} {field : DescriptorField}
    (h : descriptor.overlong? = some field) : 128 < descriptor.textSize field := by
  rw [overlong?] at h
  simpa using List.find?_some h

/-- The fault of a descriptor that is refused. -/
def fault? (descriptor : Descriptor) : Option InvalidArgument :=
  descriptor.overlong?.map fun field => .fieldTooLong field (descriptor.textSize field)

theorem fault?_eq_none_iff {descriptor : Descriptor} :
    descriptor.fault? = none ↔ descriptor.Fits := by
  rw [fault?, Option.map_eq_none_iff, overlong?_eq_none_iff]

theorem checks_eq (descriptor : Descriptor) :
    textFields.forM descriptor.checkField =
      match descriptor.fault? with
      | none => .ok ()
      | some fault => .error fault := by
  rw [forM_checkField, fault?, overlong?]
  cases textFields.find? fun field => 128 < descriptor.textSize field <;> rfl

/-! ## The item -/

/-- What is appended for a descriptor that is not refused. -/
def item (descriptor : Descriptor) : List UInt8 :=
  packText descriptor.name ++ packText descriptor.vendor ++ packText descriptor.deviceType ++
    descriptor.version.encode

theorem length_packText {text : String} (h : (Utf8.encode text).length ≤ fieldWidth) :
    (packText text).length = fieldWidth := by
  rw [packText, List.length_append, List.length_replicate, Nat.add_sub_of_le h]

theorem unpackText_packText (text : String) : unpackText (packText text) = Utf8.beforeNul text := by
  rw [unpackText, packText, Utf8.takeWhile_encode, Utf8.decode_encode]

/-- The bytes of a text field at the front of `bytes`, by its place in an item. -/
def fieldBytes (bytes : List UInt8) : DescriptorField → List UInt8
  | .name => bytes.take fieldWidth
  | .vendor => (bytes.drop fieldWidth).take fieldWidth
  | .deviceType => (bytes.drop (2 * fieldWidth)).take fieldWidth

theorem field_ofBytes (bytes : List UInt8) (field : DescriptorField) :
    (ofBytes bytes).field field = unpackText (fieldBytes bytes field) := by
  cases field <;> rfl

/-- Only the bytes of the item at the front count. -/
theorem ofBytes_take (bytes : List UInt8) : ofBytes (bytes.take descriptorSize) = ofBytes bytes := by
  have hversion : (bytes.take descriptorSize).drop (3 * fieldWidth) =
      (bytes.drop (3 * fieldWidth)).take versionSize := List.drop_take
  refine ext_field (fun field => ?_) ?_
  · rw [field_ofBytes, field_ofBytes]
    cases field <;> simp only [fieldBytes, List.drop_take, List.take_take] <;> rfl
  · show Version.ofBytes ((bytes.take descriptorSize).drop (3 * fieldWidth)) = _
    rw [hversion, Version.ofBytes_take]
    rfl

theorem le_length_of_consume {bytes rest : List UInt8} {descriptor : Descriptor}
    (h : consume bytes = (.ok descriptor, rest)) : descriptorSize ≤ bytes.length := by
  by_contra hshort
  rw [consume_of_lt (Nat.lt_of_not_le hshort)] at h
  cases h

/-- What follows an item has no part in what is read from it. -/
theorem consume_append {bytes rest : List UInt8} {descriptor : Descriptor}
    (h : consume bytes = (.ok descriptor, rest)) (more : List UInt8) :
    consume (bytes ++ more) = (.ok descriptor, rest ++ more) := by
  have hlong := le_length_of_consume h
  have hlonger : descriptorSize ≤ (bytes ++ more).length := by
    rw [List.length_append]
    exact Nat.le_add_right_of_le hlong
  have hsame : ofBytes (bytes ++ more) = ofBytes bytes := by
    rw [← ofBytes_take, List.take_append_of_le_length hlong, ofBytes_take]
  rw [consume_of_le hlong] at h
  cases h
  rw [consume_of_le hlonger, hsame, List.drop_append_of_le_length hlong]

section Layout

variable {descriptor : Descriptor} (h : descriptor.Fits) (rest : List UInt8)

include h

theorem length_packed_texts :
    (packText descriptor.name).length = fieldWidth ∧
      (packText descriptor.name ++ packText descriptor.vendor).length = 2 * fieldWidth ∧
      (packText descriptor.name ++ packText descriptor.vendor ++
        packText descriptor.deviceType).length = 3 * fieldWidth := by
  have hname : (packText descriptor.name).length = fieldWidth := length_packText (h .name)
  have hvendor : (packText descriptor.vendor).length = fieldWidth := length_packText (h .vendor)
  have htype : (packText descriptor.deviceType).length = fieldWidth :=
    length_packText (h .deviceType)
  have htwo : (packText descriptor.name ++ packText descriptor.vendor).length = 2 * fieldWidth := by
    rw [List.length_append, hname, hvendor, Nat.two_mul]
  refine ⟨hname, htwo, ?_⟩
  rw [List.length_append, htwo, htype, ← Nat.succ_mul]

theorem length_item : descriptor.item.length = descriptorSize := by
  obtain ⟨-, -, hthree⟩ := length_packed_texts h
  rw [item, List.length_append, hthree, Version.length_encode]
  rfl

theorem fieldBytes_item (field : DescriptorField) :
    fieldBytes (descriptor.item ++ rest) field = packText (descriptor.field field) := by
  obtain ⟨hname, htwo, -⟩ := length_packed_texts h
  have hfield := length_packText (h field)
  unfold item
  cases field with
  | name =>
    rw [fieldBytes, List.append_assoc, List.append_assoc, List.append_assoc]
    exact List.take_left' hfield
  | vendor =>
    rw [fieldBytes, List.append_assoc, List.append_assoc, List.append_assoc, List.drop_left' hname]
    exact List.take_left' hfield
  | deviceType =>
    rw [fieldBytes, List.append_assoc, List.append_assoc, List.drop_left' htwo]
    exact List.take_left' hfield

theorem ofBytes_item : ofBytes (descriptor.item ++ rest) = descriptor.beforeNul := by
  obtain ⟨-, -, hthree⟩ := length_packed_texts h
  have htext : ∀ field, (ofBytes (descriptor.item ++ rest)).field field =
      descriptor.beforeNul.field field := by
    intro field
    rw [field_ofBytes, fieldBytes_item h, unpackText_packText, field_beforeNul]
  have hversion : (ofBytes (descriptor.item ++ rest)).version = descriptor.version := by
    unfold ofBytes item
    rw [List.append_assoc _ _ rest, List.drop_left' hthree, Version.ofBytes_encode]
  exact ext_field htext hversion

theorem consume_item : consume (descriptor.item ++ rest) = (.ok descriptor.beforeNul, rest) := by
  have hsize := length_item h
  have hlong : descriptorSize ≤ (descriptor.item ++ rest).length := by
    rw [List.length_append, hsize]
    exact Nat.le_add_right _ _
  rw [consume_of_le hlong, ofBytes_item h, List.drop_left' hsize]

end Layout

/-! ## Packing -/

/-- All checks come before the first text, so a fault finds the buffer as it was. -/
theorem append_eq (descriptor : Descriptor) (buffer : List UInt8) :
    descriptor.append buffer =
      match descriptor.fault? with
      | none => (.ok (), buffer ++ descriptor.item)
      | some fault => (.error fault, buffer) := by
  rw [append, checks_eq]
  cases descriptor.fault? with
  | none => simp only [appendText, Version.append_eq, item, List.append_assoc]
  | some fault => rfl

theorem encode_eq_fault? (descriptor : Descriptor) :
    descriptor.encode =
      match descriptor.fault? with
      | none => .ok descriptor.item
      | some fault => .error fault := by
  rw [encode, append_eq]
  cases descriptor.fault? <;> rfl

theorem append_of_fits {descriptor : Descriptor} (h : descriptor.Fits) (buffer : List UInt8) :
    descriptor.append buffer = (.ok (), buffer ++ descriptor.item) := by
  rw [append_eq, fault?_eq_none_iff.mpr h]

theorem append_fst_eq_ok_iff {descriptor : Descriptor} (buffer : List UInt8) :
    (descriptor.append buffer).1 = .ok () ↔ descriptor.Fits := by
  rw [append_eq, ← fault?_eq_none_iff]
  cases descriptor.fault? <;> simp

theorem append_eq_ok_iff {descriptor : Descriptor} {buffer packed : List UInt8} :
    descriptor.append buffer = (.ok (), buffer ++ packed) ↔
      descriptor.Fits ∧ packed = descriptor.item := by
  constructor
  · intro h
    have hfits : descriptor.Fits := (append_fst_eq_ok_iff buffer).mp (congrArg Prod.fst h)
    rw [append_of_fits hfits] at h
    exact ⟨hfits, (List.append_cancel_left (Prod.mk.inj h).2).symm⟩
  · rintro ⟨hfits, rfl⟩
    exact append_of_fits hfits buffer

/-- How packing behind a buffer ends. -/
inductive Packing (descriptor : Descriptor) (buffer : List UInt8) :
    Except InvalidArgument Unit × List UInt8 → Prop
  /-- One item is added. No text is longer than its field, so there is never less than nothing to
  fill up. -/
  | packed {item : List UInt8} (size : item.length = 396)
      (room : ∀ field, descriptor.textSize field ≤ fieldWidth)
      (back : ∀ rest, consume (item ++ rest) = (.ok descriptor.beforeNul, rest)) :
      Packing descriptor buffer (.ok (), buffer ++ item)
  /-- Nothing is added. The fault names the first text that is too long, and its size. -/
  | refused {field : DescriptorField} (long : 128 < descriptor.textSize field)
      (first : descriptor.overlong? = some field) :
      Packing descriptor buffer (.error (.fieldTooLong field (descriptor.textSize field)), buffer)

theorem append_packing (descriptor : Descriptor) (buffer : List UInt8) :
    Packing descriptor buffer (descriptor.append buffer) := by
  rw [append_eq, fault?]
  cases hlong : descriptor.overlong? with
  | none =>
    have hfits := overlong?_eq_none_iff.mp hlong
    exact .packed (length_item hfits) hfits (consume_item hfits)
  | some field => exact .refused (lt_of_overlong? hlong) hlong

/-- What is appended tells the texts up to their first zero characters, and the version. -/
theorem consume_of_append {descriptor : Descriptor} {buffer item : List UInt8}
    (h : descriptor.append buffer = (.ok (), buffer ++ item)) :
    consume item = (.ok descriptor.beforeNul, []) := by
  obtain ⟨hfits, rfl⟩ := append_eq_ok_iff.mp h
  have hback := consume_item hfits []
  rwa [List.append_nil] at hback

/-- Packing adds one whole item or nothing, and descriptors whose texts have no zero character are
told apart by their items. -/
theorem packed_whole_or_refused (descriptor : Descriptor) (buffer : List UInt8) :
    Packing descriptor buffer (descriptor.append buffer) ∧
    ∀ (other : Descriptor) (otherBuffer item : List UInt8), descriptor.NulFree → other.NulFree →
      descriptor.append buffer = (.ok (), buffer ++ item) →
      other.append otherBuffer = (.ok (), otherBuffer ++ item) → descriptor = other := by
  refine ⟨append_packing descriptor buffer, ?_⟩
  intro other otherBuffer item hfree hother hpacked hsame
  have hback := (consume_of_append hpacked).symm.trans (consume_of_append hsame)
  have hequal := Except.ok.inj (Prod.mk.inj hback).1
  rwa [beforeNul_of_nulFree hfree, beforeNul_of_nulFree hother] at hequal

/-- A descriptor, and the same one read from a text. -/
theorem packed_whole_or_refused_parsed :
    let descriptor : Descriptor :=
      { vendor := "xlnx", deviceType := "axi_gpio", version := ⟨2, 0, 97⟩ }
    let parsed := Descriptor.parse "xlnx,axi_gpio-2.0.a"
    descriptor.NulFree ∧ parsed.NulFree ∧
      descriptor.append [7] = (.ok (), [7] ++ descriptor.item) ∧
      parsed.append [] = (.ok (), [] ++ descriptor.item) ∧ descriptor = parsed := by
  intro descriptor parsed
  have hfree : descriptor.NulFree := by decide +kernel
  have hparsed : parsed.NulFree := by decide +kernel
  have hfits : descriptor.Fits := by decide +kernel
  have hsame : parsed.append [] = (.ok (), [] ++ descriptor.item) := by
    have hitem : parsed.item = descriptor.item := by decide +kernel
    have hroom : parsed.Fits := by decide +kernel
    rw [append_of_fits hroom, hitem]
  refine ⟨hfree, hparsed, append_of_fits hfits [7], hsame, ?_⟩
  exact (packed_whole_or_refused descriptor [7]).2 parsed [] descriptor.item hfree hparsed
    (append_of_fits hfits [7]) hsame

end RegisterLink.Descriptor
