import RegisterLink.Text.Utf8
import RegisterLink.Version

/-!
# Compatibility descriptors

A descriptor names a device by vendor, type and version, and optionally by the name of one
instance. Empty texts leave a field open. Packed, each text takes a fixed field that is filled up
with zero bytes; a text that is read back ends at the first zero byte.
-/
namespace RegisterLink

/-- What a client asks for, or a device is. -/
structure Descriptor where
  name : String := ""
  vendor : String := ""
  deviceType : String := ""
  version : Version := Version.any
  deriving DecidableEq, Repr

namespace Descriptor

/-- Two texts agree when they are equal or one of them is left open. -/
def textFits (text pattern : String) : Bool :=
  text == "" || pattern == "" || text == pattern

/-- Whether the descriptor satisfies the pattern. Two names decide alone; otherwise vendor and type
must agree and the version must fit. -/
def satisfies (descriptor pattern : Descriptor) : Bool :=
  if descriptor.name ≠ "" ∧ pattern.name ≠ "" then
    descriptor.name == pattern.name
  else
    textFits descriptor.vendor pattern.vendor &&
      textFits descriptor.deviceType pattern.deviceType &&
      descriptor.version.fits pattern.version

/-! ## Packed form -/

def field (descriptor : Descriptor) : DescriptorField → String
  | .name => descriptor.name
  | .vendor => descriptor.vendor
  | .deviceType => descriptor.deviceType

/-- The text fields in the order in which they are checked and laid out. -/
def textFields : List DescriptorField := [.name, .vendor, .deviceType]

/-- Refuses a text that is longer than its field. -/
def checkField (descriptor : Descriptor) (field : DescriptorField) :
    Except InvalidArgument Unit :=
  let size := (Utf8.encode (descriptor.field field)).length
  if fieldWidth < size then .error (.fieldTooLong field size) else .ok ()

/-- A text filled up with zero bytes. -/
def packText (text : String) : List UInt8 :=
  let bytes := Utf8.encode text
  bytes ++ List.replicate (fieldWidth - bytes.length) 0

/-- Puts a packed text behind the bytes already in `buffer`. -/
def appendText (text : String) (buffer : List UInt8) : List UInt8 :=
  buffer ++ packText text

/-- Packs the descriptor behind the bytes already in `buffer`, one part after the other. What a part
has appended is never taken back: a refusal leaves the buffer as it was only because all texts are
checked before the first is packed. -/
def append (descriptor : Descriptor) (buffer : List UInt8) :
    Except InvalidArgument Unit × List UInt8 :=
  match textFields.forM descriptor.checkField with
  | .error fault => (.error fault, buffer)
  | .ok () =>
    let buffer := appendText descriptor.name buffer
    let buffer := appendText descriptor.vendor buffer
    let buffer := appendText descriptor.deviceType buffer
    (.ok (), descriptor.version.append buffer)

/-- The packed form by itself. -/
def encode (descriptor : Descriptor) : Except InvalidArgument (List UInt8) :=
  let (result, item) := descriptor.append []
  result.map fun _ => item

/-- The text in a field: what stands before the first zero byte. -/
def unpackText (field : List UInt8) : String :=
  Utf8.decode (field.takeWhile (· != 0))

/-- Takes a text field from the front of a buffer. -/
def consumeText (buffer : List UInt8) : String × List UInt8 :=
  (unpackText (buffer.take fieldWidth), buffer.drop fieldWidth)

/-- Takes a descriptor from the front of a buffer and leaves what follows it. A buffer that is too
short is left as it was. -/
def consume (buffer : List UInt8) : Except Malformed Descriptor × List UInt8 :=
  if buffer.length < descriptorSize then
    (.error (.descriptorTooShort buffer.length), buffer)
  else
    let (name, buffer) := consumeText buffer
    let (vendor, buffer) := consumeText buffer
    let (deviceType, buffer) := consumeText buffer
    let (version, buffer) := Version.consume buffer
    (version.map fun version => { name, vendor, deviceType, version }, buffer)

/-- Reads a descriptor from the front of `bytes` and returns what follows it. -/
def decode (bytes : List UInt8) : Except Malformed (Descriptor × List UInt8) :=
  let (descriptor, rest) := consume bytes
  descriptor.map (·, rest)

theorem consume_of_lt {buffer : List UInt8} (h : buffer.length < descriptorSize) :
    consume buffer = (.error (.descriptorTooShort buffer.length), buffer) := if_pos h

/-- The descriptor whose parts stand at the front of `bytes`, each in its place. -/
def ofBytes (bytes : List UInt8) : Descriptor where
  name := unpackText (bytes.take fieldWidth)
  vendor := unpackText ((bytes.drop fieldWidth).take fieldWidth)
  deviceType := unpackText ((bytes.drop (2 * fieldWidth)).take fieldWidth)
  version := Version.ofBytes (bytes.drop (3 * fieldWidth))

theorem consume_of_le {buffer : List UInt8} (h : descriptorSize ≤ buffer.length) :
    consume buffer = (.ok (ofBytes buffer), buffer.drop descriptorSize) := by
  have hplace : fieldWidth + fieldWidth + fieldWidth = 3 * fieldWidth := rfl
  have hversion : versionSize ≤ (buffer.drop (3 * fieldWidth)).length := by
    rw [List.length_drop]
    exact Nat.le_sub_of_add_le' h
  rw [consume, if_neg (Nat.not_lt.mpr h)]
  simp only [consumeText, List.drop_drop, hplace]
  rw [Version.consume_of_le hversion, List.drop_drop]
  rfl

/-- Every descriptor that is read uses up bytes. -/
theorem length_lt_of_consume {buffer rest : List UInt8} {descriptor : Descriptor}
    (h : consume buffer = (.ok descriptor, rest)) : rest.length < buffer.length := by
  by_cases hshort : buffer.length < descriptorSize
  · rw [consume_of_lt hshort] at h
    cases h
  · have hlong : descriptorSize ≤ buffer.length := Nat.le_of_not_lt hshort
    have hsome : 0 < descriptorSize := by decide
    rw [consume_of_le hlong] at h
    cases h
    rw [List.length_drop]
    omega

/-! ## Text -/

def display (descriptor : Descriptor) : String :=
  descriptor.name ++ ":" ++ descriptor.vendor ++ "," ++ descriptor.deviceType ++ "-" ++
    descriptor.version.display

/-- The type and version in a text. A hyphen separates them only if a version follows it. -/
def typeAndVersion (text : List Char) : List Char × Version :=
  match Text.splitLast '-' text with
  | none => (text, Version.any)
  | some (deviceType, tail) =>
    match Version.ofChars? tail with
    | some version => (deviceType, version)
    | none => (text, Version.any)

/-- Reads `vendor,type-version`, in which vendor and version may be missing. Every text is read:
what is not a vendor or a version belongs to the type. -/
def parse (text : String) : Descriptor :=
  let (vendor, rest) := (Text.splitLast ',' text.toList).getD ([], text.toList)
  let (deviceType, version) := typeAndVersion rest
  { vendor := String.ofList vendor, deviceType := String.ofList deviceType, version }

end Descriptor

end RegisterLink
