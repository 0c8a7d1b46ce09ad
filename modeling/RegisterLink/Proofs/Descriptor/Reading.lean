import RegisterLink.Descriptor
import RegisterLink.Proofs.Version.Reading

/-!
# Descriptors as they are written

What stands before the last comma of a text is the vendor; of the rest, a version is what stands
behind the last hyphen, if it is one. A version has neither commas nor hyphens, so nothing in front
of it can move the place where it begins. Every text has one of four forms and is read as its parts
tell, whatever commas and hyphens are in the vendor and whatever hyphens are in the type.
-/
namespace RegisterLink.Descriptor

/-- A type with no version behind it: it has no hyphen, or no version follows the last one. -/
def Unversioned (deviceType : String) : Prop :=
  ∀ before tail : String, deviceType = before ++ "-" ++ tail → '-' ∉ tail.toList →
    ∀ version, Version.parse tail ≠ .ok version

/-- The texts of a descriptor. -/
inductive Written : String → Descriptor → Prop
  | vendor_type_version (vendor : String) {deviceType tail : String} {version : Version}
      (no_comma : ',' ∉ deviceType.toList) (accepted : Version.parse tail = .ok version) :
      Written (vendor ++ "," ++ (deviceType ++ "-" ++ tail)) { vendor, deviceType, version }
  | type_version {deviceType tail : String} {version : Version}
      (no_comma : ',' ∉ deviceType.toList) (accepted : Version.parse tail = .ok version) :
      Written (deviceType ++ "-" ++ tail) { deviceType, version }
  | vendor_type (vendor : String) {deviceType : String} (no_comma : ',' ∉ deviceType.toList)
      (unversioned : Unversioned deviceType) :
      Written (vendor ++ "," ++ deviceType) { vendor, deviceType }
  | type {deviceType : String} (no_comma : ',' ∉ deviceType.toList)
      (unversioned : Unversioned deviceType) : Written deviceType { deviceType }

/-! ## Type and version -/

theorem toList_comma : ",".toList = [','] := rfl

theorem toList_hyphen : "-".toList = ['-'] := rfl

theorem no_comma_of_version {deviceType tail : String} {version : Version}
    (accepted : Version.parse tail = .ok version) :
    ',' ∉ (deviceType ++ "-" ++ tail).toList ↔ ',' ∉ deviceType.toList := by
  have htail : ',' ∉ tail.toList :=
    (Version.parse_eq_ok_iff.mp accepted).not_mem rfl (by decide)
  simp [htail]

theorem typeAndVersion_of_version (deviceType : String) {tail : String} {version : Version}
    (accepted : Version.parse tail = .ok version) :
    typeAndVersion (deviceType ++ "-" ++ tail).toList = (deviceType.toList, version) := by
  have hwritten := Version.parse_eq_ok_iff.mp accepted
  have htail : '-' ∉ tail.toList := hwritten.not_mem rfl (by decide)
  rw [typeAndVersion, Text.splitLast_join toList_hyphen deviceType htail]
  simp [Version.ofChars?_eq_some_iff.mpr hwritten]

theorem typeAndVersion_of_unversioned {deviceType : String} (h : Unversioned deviceType) :
    typeAndVersion deviceType.toList = (deviceType.toList, Version.any) := by
  by_cases hhyphen : '-' ∈ deviceType.toList
  · obtain ⟨before, tail, htext, htail⟩ := Text.exists_join toList_hyphen hhyphen
    have hrefused : Version.ofChars? tail.toList = none := by
      rw [Option.eq_none_iff_forall_ne_some]
      intro version hversion
      apply h before tail htext htail version
      exact Version.parse_eq_ok_iff.mpr (Version.ofChars?_eq_some_iff.mp hversion)
    rw [htext, typeAndVersion, Text.splitLast_join toList_hyphen before htail]
    simp [hrefused]
  · rw [typeAndVersion, Text.splitLast_eq_none_iff.mpr hhyphen]

theorem versioned_or_unversioned (text : String) :
    (∃ deviceType tail version, text = deviceType ++ "-" ++ tail ∧
      Version.parse tail = .ok version) ∨ Unversioned text := by
  by_cases h : Unversioned text
  · exact .inr h
  · left
    simp only [Unversioned, not_forall, not_not] at h
    obtain ⟨deviceType, tail, htext, -, version, haccepted⟩ := h
    exact ⟨deviceType, tail, version, htext, haccepted⟩

/-! ## The whole text -/

theorem parse_of_no_comma {text : String} (h : ',' ∉ text.toList) :
    parse text = { deviceType := String.ofList (typeAndVersion text.toList).1,
                   version := (typeAndVersion text.toList).2 } := by
  rw [parse, Text.splitLast_eq_none_iff.mpr h]
  rfl

/-- What stands before the last comma is read as the vendor and changes nothing else. -/
theorem parse_of_vendor (vendor : String) {rest : String} (h : ',' ∉ rest.toList) :
    parse (vendor ++ "," ++ rest) = { parse rest with vendor } := by
  rw [parse, Text.splitLast_join toList_comma vendor h, parse_of_no_comma h]
  simp

theorem parse_of_version {deviceType tail : String} {version : Version}
    (no_comma : ',' ∉ deviceType.toList) (accepted : Version.parse tail = .ok version) :
    parse (deviceType ++ "-" ++ tail) = { deviceType, version } := by
  rw [parse_of_no_comma ((no_comma_of_version accepted).mpr no_comma),
    typeAndVersion_of_version deviceType accepted, String.ofList_toList]

theorem parse_of_unversioned {deviceType : String} (no_comma : ',' ∉ deviceType.toList)
    (unversioned : Unversioned deviceType) : parse deviceType = { deviceType } := by
  rw [parse_of_no_comma no_comma, typeAndVersion_of_unversioned unversioned, String.ofList_toList]

theorem parse_of_written {text : String} {descriptor : Descriptor} (h : Written text descriptor) :
    parse text = descriptor := by
  cases h with
  | vendor_type_version vendor no_comma accepted =>
    rw [parse_of_vendor vendor ((no_comma_of_version accepted).mpr no_comma),
      parse_of_version no_comma accepted]
  | type_version no_comma accepted => exact parse_of_version no_comma accepted
  | vendor_type vendor no_comma unversioned =>
    rw [parse_of_vendor vendor no_comma, parse_of_unversioned no_comma unversioned]
  | type no_comma unversioned => exact parse_of_unversioned no_comma unversioned

/-- A text without a comma has one of the two forms without a vendor, and behind a vendor the
corresponding one with it. -/
theorem written_of_no_comma {text : String} (h : ',' ∉ text.toList) :
    Written text (parse text) ∧
      ∀ vendor, Written (vendor ++ "," ++ text) { parse text with vendor } := by
  obtain ⟨deviceType, tail, version, rfl, haccepted⟩ | hunversioned :=
    versioned_or_unversioned text
  · have hcomma := (no_comma_of_version haccepted).mp h
    rw [parse_of_version hcomma haccepted]
    exact ⟨.type_version hcomma haccepted, fun vendor =>
      .vendor_type_version vendor hcomma haccepted⟩
  · rw [parse_of_unversioned h hunversioned]
    exact ⟨.type h hunversioned, fun vendor => .vendor_type vendor h hunversioned⟩

theorem written_parse (text : String) : Written text (parse text) := by
  by_cases hcomma : ',' ∈ text.toList
  · obtain ⟨vendor, rest, rfl, hrest⟩ := Text.exists_join toList_comma hcomma
    rw [parse_of_vendor vendor hrest]
    exact (written_of_no_comma hrest).2 vendor
  · exact (written_of_no_comma hcomma).1

/-- A text is read as a descriptor exactly if it is one of the descriptor's. So every text has one
of the four forms, and none has the forms of two descriptors. The name of an instance is never read
from a text. -/
theorem descriptor_text_read (text : String) :
    (∀ descriptor, parse text = descriptor ↔ Written text descriptor) ∧
      (parse text).name = "" := by
  refine ⟨?_, rfl⟩
  intro descriptor
  constructor
  · intro hparse
    rw [← hparse]
    exact written_parse text
  · exact parse_of_written

/-- Commas and hyphens in the vendor, and a hyphen in the type. -/
example : parse "acme, ug4-150,axi-dma-7.1" =
    { vendor := "acme, ug4-150", deviceType := "axi-dma", version := ⟨7, 1, -1⟩ } := by
  decide +kernel

end RegisterLink.Descriptor
