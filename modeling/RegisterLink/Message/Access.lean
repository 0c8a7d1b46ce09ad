import RegisterLink.Bytes.Word
import RegisterLink.Fault.InvalidArgument
import RegisterLink.Fault.Malformed

/-!
# Register access

Bodies of reads and writes. Both begin with the device, the register's offset and a size; a write
carries that many bytes behind them. A read is always answered by one 32-bit word.
-/
namespace RegisterLink

structure ReadRequest where
  deviceId : UInt8
  offset : UInt32
  size : UInt16
  deriving DecidableEq, Repr

structure WriteRequest where
  deviceId : UInt8
  offset : UInt32
  data : List UInt8
  deriving DecidableEq, Repr

/-- The fixed part of an access: device, offset and size. -/
def encodeAccess (deviceId : UInt8) (offset : UInt32) (size : UInt16) : List UInt8 :=
  deviceId :: (Word.encode 4 offset.toNat ++ Word.encode 2 size.toNat)

def accessDevice (body : List UInt8) : UInt8 := body.headD 0

def accessOffset (body : List UInt8) : UInt32 :=
  UInt32.ofNat (Word.decode ((body.drop 1).take 4))

def accessSize (body : List UInt8) : UInt16 :=
  UInt16.ofNat (Word.decode ((body.drop 5).take 2))

@[simp] theorem length_encodeAccess (deviceId : UInt8) (offset : UInt32) (size : UInt16) :
    (encodeAccess deviceId offset size).length = accessHeaderSize := by
  simp [encodeAccess, accessHeaderSize]

namespace ReadRequest

def encode (request : ReadRequest) : List UInt8 :=
  encodeAccess request.deviceId request.offset request.size

/-- Reads a body that is the fixed part and nothing else. -/
def decode (body : List UInt8) : Except Malformed ReadRequest :=
  if body.length = accessHeaderSize then
    .ok ⟨accessDevice body, accessOffset body, accessSize body⟩
  else
    .error (.wrongReadRequestSize body.length)

end ReadRequest

namespace WriteRequest

/-- The body of a write request. Refuses a payload that no frame could carry. -/
def encode (request : WriteRequest) : Except InvalidArgument (List UInt8) :=
  if maxPayloadSize < request.data.length then
    .error (.payloadTooLong request.data.length)
  else
    .ok (encodeAccess request.deviceId request.offset (UInt16.ofNat request.data.length) ++
      request.data)

/-- Reads a body. Refuses a size that differs from the number of bytes carried. -/
def decode (body : List UInt8) : Except Malformed WriteRequest :=
  if body.length < accessHeaderSize then
    .error (.writeRequestTooShort body.length)
  else
    let data := body.drop accessHeaderSize
    let size := (accessSize body).toNat
    if data.length = size then
      .ok ⟨accessDevice body, accessOffset body, data⟩
    else
      .error (.writeRequestMismatch size data.length)

end WriteRequest

/-- The word in the answer to a read. -/
def decodeReadResponse (body : List UInt8) : Except Malformed UInt32 :=
  if body.length = readResponseSize then
    .ok (UInt32.ofNat (Word.decode body))
  else
    .error (.wrongReadResponseSize body.length)

end RegisterLink
