/-!
# Little-endian words

Every number of the protocol travels as a fixed number of bytes, least significant first.
`encode width value` writes the low `width` bytes of a natural number and `decode` reads any
byte string back.
-/
namespace RegisterLink.Word

/-- The low `width` bytes of `value`, least significant first. -/
def encode : Nat → Nat → List UInt8
  | 0, _ => []
  | width + 1, value => UInt8.ofNat value :: encode width (value / 256)

/-- The number whose bytes are given, least significant first. -/
def decode : List UInt8 → Nat
  | [] => 0
  | byte :: rest => byte.toNat + 256 * decode rest

/-- A signed 32-bit number in two's complement, four bytes. -/
def encodeInt32 (value : Int32) : List UInt8 :=
  encode 4 value.toUInt32.toNat

/-- Reads the two's complement number whose bytes are given. -/
def decodeInt32 (bytes : List UInt8) : Int32 :=
  (UInt32.ofNat (decode bytes)).toInt32

/-- Puts a signed number behind the bytes already in `buffer`. -/
def appendInt32 (value : Int32) (buffer : List UInt8) : List UInt8 :=
  buffer ++ encodeInt32 value

/-- Takes a signed number from the front of a buffer that has four bytes or more. -/
def consumeInt32 (buffer : List UInt8) : Int32 × List UInt8 :=
  (decodeInt32 (buffer.take 4), buffer.drop 4)

@[simp] theorem length_encode (width value : Nat) : (encode width value).length = width := by
  induction width generalizing value with
  | zero => rfl
  | succ width ih => simp [encode, ih]

@[simp] theorem length_encodeInt32 (value : Int32) : (encodeInt32 value).length = 4 :=
  length_encode 4 _

end RegisterLink.Word
