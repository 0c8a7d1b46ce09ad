/-!
# Text as UTF-8 bytes

Characters are written in one to four bytes. Reading accepts any bytes: what is not UTF-8 becomes
U+FFFD, one for each maximal run that could still have begun a character. The reader goes byte by
byte. Inside a character it knows the range its next byte must lie in; a byte outside that range
ends the broken character and is then read afresh.
-/
namespace RegisterLink.Utf8

def encode (text : String) : List UInt8 :=
  text.toList.flatMap String.utf8EncodeChar

/-- What stands in for bytes that form no character. -/
def replacement : Char := '\ufffd'

/-- A character under way. After its next byte, which must lie between `low` and `high`, it lacks
`more` bytes; `bits` is the number its bytes spell so far. -/
structure Pending where
  more : Nat
  bits : Nat
  low : Nat := 0x80
  high : Nat := 0xBF
  deriving DecidableEq, Repr

/-- Reads a byte between two characters: what is finished by it and what it begins. -/
def start (byte : UInt8) : List Char × Option Pending :=
  let b := byte.toNat
  if b < 0x80 then ([Char.ofNat b], none)
  else if b < 0xC2 then ([replacement], none)
  else if b < 0xE0 then ([], some { more := 0, bits := b - 0xC0 })
  else if b = 0xE0 then ([], some { more := 1, bits := 0, low := 0xA0 })
  else if b = 0xED then ([], some { more := 1, bits := 0xD, high := 0x9F })
  else if b < 0xF0 then ([], some { more := 1, bits := b - 0xE0 })
  else if b = 0xF0 then ([], some { more := 2, bits := 0, low := 0x90 })
  else if b < 0xF4 then ([], some { more := 2, bits := b - 0xF0 })
  else if b = 0xF4 then ([], some { more := 2, bits := 4, high := 0x8F })
  else ([replacement], none)

/-- Reads a byte inside a character. -/
def resume (pending : Pending) (byte : UInt8) : List Char × Option Pending :=
  if pending.low ≤ byte.toNat ∧ byte.toNat ≤ pending.high then
    let bits := 64 * pending.bits + (byte.toNat - 0x80)
    match pending.more with
    | 0 => ([Char.ofNat bits], none)
    | more + 1 => ([], some { more, bits })
  else
    let (finished, begun) := start byte
    (replacement :: finished, begun)

def step : Option Pending → UInt8 → List Char × Option Pending
  | none, byte => start byte
  | some pending, byte => resume pending byte

/-- Reads bytes from a given state; a character cut off by the end is replaced. -/
def decodeFrom : Option Pending → List UInt8 → List Char
  | none, [] => []
  | some _, [] => [replacement]
  | state, byte :: rest => (step state byte).1 ++ decodeFrom (step state byte).2 rest

def decode (bytes : List UInt8) : String :=
  String.ofList (decodeFrom none bytes)

end RegisterLink.Utf8
