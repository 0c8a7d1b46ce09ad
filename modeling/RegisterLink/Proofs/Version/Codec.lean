import RegisterLink.Error
import RegisterLink.Proofs.Bytes.Word
import RegisterLink.Version

/-!
# Versions there and back

The three numbers of a version stand in twelve bytes side by side, and every twelve bytes are three
numbers: packing and reading are inverse in both directions, and -1 is a number like any other.
Packing leaves what stands before the twelve bytes, reading what stands behind them. Of fewer than
twelve bytes none is taken.
-/
namespace RegisterLink.Version

theorem ofBytes_encode (version : Version) (rest : List UInt8) :
    ofBytes (version.encode ++ rest) = version := by
  obtain ⟨major, minor, subminor⟩ := version
  have hmajor := Word.length_encodeInt32 major
  have hminor := Word.length_encodeInt32 minor
  have hboth : (Word.encodeInt32 major ++ Word.encodeInt32 minor).length = 8 := by
    rw [List.length_append, hmajor, hminor]
  rw [encode_eq]
  unfold ofBytes
  rw [List.append_assoc, List.drop_left' hboth,
    List.take_left' (Word.length_encodeInt32 subminor), List.append_assoc, List.take_left' hmajor,
    List.drop_left' hmajor, List.take_left' hminor]
  simp only [Word.decodeInt32_encodeInt32]

theorem ofBytes_take (bytes : List UInt8) : ofBytes (bytes.take versionSize) = ofBytes bytes := by
  simp only [ofBytes, List.drop_take, List.take_take]
  rfl

theorem encode_ofBytes {bytes : List UInt8} (h : versionSize ≤ bytes.length) :
    (ofBytes bytes).encode = bytes.take versionSize := by
  rw [versionSize] at h
  have hmajor : (bytes.take 4).length = 4 := by
    rw [List.length_take]
    omega
  have hminor : ((bytes.drop 4).take 4).length = 4 := by
    rw [List.length_take, List.length_drop]
    omega
  have hsubminor : ((bytes.drop 8).take 4).length = 4 := by
    rw [List.length_take, List.length_drop]
    omega
  rw [encode_eq]
  unfold ofBytes
  rw [Word.encodeInt32_decodeInt32 hmajor, Word.encodeInt32_decodeInt32 hminor,
    Word.encodeInt32_decodeInt32 hsubminor, ← List.take_add, ← List.take_add]
  rfl

/-! ## The bytes of a version -/

/-- The three numbers side by side, each in four bytes of its own. -/
inductive Layout (version : Version) : List UInt8 → Prop
  | numbers {major minor subminor : List UInt8}
      (hmajor : Word.TwosComplement version.major major)
      (hminor : Word.TwosComplement version.minor minor)
      (hsubminor : Word.TwosComplement version.subminor subminor) :
      Layout version (major ++ minor ++ subminor)

theorem encode_eq_iff {version : Version} {item : List UInt8} :
    version.encode = item ↔ Layout version item := by
  constructor
  · rintro rfl
    exact .numbers (Word.encodeInt32_eq_iff.mp rfl) (Word.encodeInt32_eq_iff.mp rfl)
      (Word.encodeInt32_eq_iff.mp rfl)
  · rintro ⟨hmajor, hminor, hsubminor⟩
    rw [encode_eq, Word.encodeInt32_eq_iff.mpr hmajor, Word.encodeInt32_eq_iff.mpr hminor,
      Word.encodeInt32_eq_iff.mpr hsubminor]

theorem consume_encode (version : Version) (rest : List UInt8) :
    consume (version.encode ++ rest) = (.ok version, rest) := by
  have hsize := length_encode version
  have hlong : versionSize ≤ (version.encode ++ rest).length := by
    rw [List.length_append, hsize]
    exact Nat.le_add_right _ _
  rw [consume_of_le hlong, ofBytes_encode, List.drop_left' hsize]

/-- What the bytes are to the version: packing adds them to any buffer and adds nothing else, and
reading takes them from whatever follows. -/
structure WireForm (version : Version) (item : List UInt8) : Prop where
  size : item.length = 12
  layout : Layout version item
  appended : ∀ buffer, version.append buffer = buffer ++ item
  back : ∀ rest, consume (item ++ rest) = (.ok version, rest)

/-- The numbers alone decide which bytes are written and read. -/
theorem Layout.wireForm {version : Version} {item : List UInt8} (h : Layout version item) :
    WireForm version item := by
  obtain rfl := encode_eq_iff.mpr h
  exact ⟨length_encode version, h, append_eq version, consume_encode version⟩

theorem exists_layout (version : Version) : ∃ item, Layout version item :=
  ⟨version.encode, encode_eq_iff.mp rfl⟩

/-! ## Reading any bytes -/

theorem layout_ofBytes {bytes : List UInt8} (h : versionSize ≤ bytes.length) :
    Layout (ofBytes bytes) (bytes.take versionSize) :=
  encode_eq_iff.mp (encode_ofBytes h)

theorem tooShort_message (size : Nat) :
    (Error.protocol (.malformed (.versionTooShort size))).message =
      "protocol error: version too short: " ++ toString size ++ " bytes" := by
  have hlabel : "protocol error" ++ ": " ++ "version too short: " =
      "protocol error: version too short: " := by decide
  show "protocol error" ++ ": " ++ ("version too short: " ++ toString size ++ " bytes") = _
  rw [← String.append_assoc, ← String.append_assoc, hlabel]

/-- How reading from the front of a buffer ends, and what it leaves. -/
inductive Unpacking (bytes : List UInt8) : Except Error Version → List UInt8 → Prop
  /-- The version that was read is the one that these bytes are packed from. -/
  | read {version : Version} (long : 12 ≤ bytes.length)
      (again : WireForm version (bytes.take 12)) : Unpacking bytes (.ok version) (bytes.drop 12)
  | refused {error : Error} (short : bytes.length < 12)
      (fault : error = .protocol (.malformed (.versionTooShort bytes.length)))
      (message : error.message =
        "protocol error: version too short: " ++ toString bytes.length ++ " bytes") :
      Unpacking bytes (.error error) bytes

theorem consume_unpacking (bytes : List UInt8) :
    Unpacking bytes (Malformed.reported (consume bytes).1) (consume bytes).2 := by
  by_cases hshort : bytes.length < versionSize
  · rw [consume_of_lt hshort]
    exact .refused hshort rfl (tooShort_message bytes.length)
  · have hlong : versionSize ≤ bytes.length := Nat.le_of_not_lt hshort
    rw [consume_of_le hlong]
    exact .read hlong (layout_ofBytes hlong).wireForm

/-- Every version has its twelve bytes, every twelve bytes are those of a version, and the same rule
of two's complement tells both for all numbers. Fewer bytes are left as they are. -/
theorem version_wire_form_exact :
    (∀ version : Version, ∃ item, WireForm version item) ∧
    (∀ (version : Version) (item : List UInt8), Layout version item → WireForm version item) ∧
    ∀ bytes, Unpacking bytes (Malformed.reported (consume bytes).1) (consume bytes).2 := by
  refine ⟨?_, fun _ _ => Layout.wireForm, consume_unpacking⟩
  intro version
  obtain ⟨item, hitem⟩ := exists_layout version
  exact ⟨item, hitem.wireForm⟩

/-- The number -1, the least and the greatest, each by the same rule. -/
theorem version_wire_form_exact_bounds :
    let version : Version := ⟨unspecified, -2147483648, 2147483647⟩
    let item : List UInt8 := [0xFF, 0xFF, 0xFF, 0xFF] ++ [0, 0, 0, 0x80] ++ [0xFF, 0xFF, 0xFF, 0x7F]
    Layout version item ∧ version.append [7] = [7] ++ item ∧
      consume (item ++ [7]) = (.ok version, [7]) := by
  intro version item
  have hlayout : Layout version item :=
    .numbers ⟨rfl, by decide⟩ ⟨rfl, by decide⟩ ⟨rfl, by decide⟩
  have hform := version_wire_form_exact.2.1 version item hlayout
  exact ⟨hlayout, hform.appended [7], hform.back [7]⟩

end RegisterLink.Version
