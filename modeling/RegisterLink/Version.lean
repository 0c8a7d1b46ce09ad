import RegisterLink.Bytes.Word
import RegisterLink.Fault.InvalidArgument
import RegisterLink.Fault.Malformed
import RegisterLink.Text.Decimal
import RegisterLink.Text.Split

/-!
# Versions

A device version has a major, a minor and a subminor number. In a pattern, the number -1 stands
for any value. A version is written as three signed words, displayed as `major.minor.subminor`,
and read from `major.minor` or `major.minor.subminor`, where a single letter may stand for the
subminor number and counts as its ASCII code.
-/
namespace RegisterLink

/-- A version, or a pattern for versions. -/
structure Version where
  major : Int32
  minor : Int32
  subminor : Int32
  deriving DecidableEq, Repr

namespace Version

/-- A number that is not given; as part of a pattern it admits every number. -/
def unspecified : Int32 := -1

/-- The pattern that every version fits. -/
def any : Version := ⟨unspecified, unspecified, unspecified⟩

/-- Whether one number agrees with that of a pattern. -/
def fieldFits (value pattern : Int32) : Bool :=
  pattern == unspecified || pattern == value

/-- Whether the version agrees with the pattern in every number the pattern gives. -/
def fits (version pattern : Version) : Bool :=
  fieldFits version.major pattern.major &&
    fieldFits version.minor pattern.minor &&
    fieldFits version.subminor pattern.subminor

/-- Packs the version behind the bytes already in `buffer`, one number after the other. -/
def append (version : Version) (buffer : List UInt8) : List UInt8 :=
  let buffer := Word.appendInt32 version.major buffer
  let buffer := Word.appendInt32 version.minor buffer
  Word.appendInt32 version.subminor buffer

/-- The packed form by itself. -/
def encode (version : Version) : List UInt8 := version.append []

/-- The version whose three numbers stand at the front of `bytes`. -/
def ofBytes (bytes : List UInt8) : Version where
  major := Word.decodeInt32 (bytes.take 4)
  minor := Word.decodeInt32 ((bytes.drop 4).take 4)
  subminor := Word.decodeInt32 ((bytes.drop 8).take 4)

/-- Takes a version from the front of a buffer and leaves what follows it. A buffer that is too
short is left as it was. -/
def consume (buffer : List UInt8) : Except Malformed Version × List UInt8 :=
  if buffer.length < versionSize then
    (.error (.versionTooShort buffer.length), buffer)
  else
    let (major, buffer) := Word.consumeInt32 buffer
    let (minor, buffer) := Word.consumeInt32 buffer
    let (subminor, buffer) := Word.consumeInt32 buffer
    (.ok ⟨major, minor, subminor⟩, buffer)

/-- Reads a version from the front of `bytes` and returns what follows it. -/
def decode (bytes : List UInt8) : Except Malformed (Version × List UInt8) :=
  let (version, rest) := consume bytes
  version.map (·, rest)

theorem consume_of_lt {buffer : List UInt8} (h : buffer.length < versionSize) :
    consume buffer = (.error (.versionTooShort buffer.length), buffer) := if_pos h

theorem consume_of_le {buffer : List UInt8} (h : versionSize ≤ buffer.length) :
    consume buffer = (.ok (ofBytes buffer), buffer.drop versionSize) := by
  rw [consume, if_neg (Nat.not_lt.mpr h)]
  simp only [Word.consumeInt32, List.drop_drop]
  rfl

theorem encode_eq (version : Version) :
    version.encode = Word.encodeInt32 version.major ++ Word.encodeInt32 version.minor ++
      Word.encodeInt32 version.subminor := rfl

theorem append_eq (version : Version) (buffer : List UInt8) :
    version.append buffer = buffer ++ version.encode := by
  simp only [append, Word.appendInt32, encode_eq, List.append_assoc]

@[simp] theorem length_encode (version : Version) : version.encode.length = versionSize := by
  simp [encode_eq, versionSize]

/-! ## Text -/

def displayField (value : Int32) : List Char :=
  if value = unspecified then "<NA>".toList else Decimal.ofInt value.toInt

def displayChars (version : Version) : List Char :=
  displayField version.major ++ '.' :: displayField version.minor ++
    '.' :: displayField version.subminor

/-- The three numbers joined by dots, `<NA>` for one that is not given. -/
def display (version : Version) : String := String.ofList version.displayChars

def maxNumber : Nat := 2147483647

/-- A number of a version: digits only, within the signed range. -/
def number? (text : List Char) : Option Int32 :=
  (Decimal.value? maxNumber text).map Int32.ofNat

/-- A subminor number, or a single letter in its place. -/
def subminor? : List Char → Option Int32
  | [c] => if c.isAlpha then some (Int32.ofNat c.toNat) else number? [c]
  | text => number? text

/-- The version a text stands for, if it has two or three parts that are numbers. -/
def ofChars? (text : List Char) : Option Version := do
  let (major, rest) ← Text.splitFirst '.' text
  match Text.splitFirst '.' rest with
  | none => return ⟨← number? major, ← number? rest, unspecified⟩
  | some (minor, subminor) => return ⟨← number? major, ← number? minor, ← subminor? subminor⟩

def parse (text : String) : Except InvalidArgument Version :=
  match ofChars? text.toList with
  | some version => .ok version
  | none => .error (.versionFormat text)

end Version

end RegisterLink
