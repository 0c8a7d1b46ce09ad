import RegisterLink.Bytes.Hex
import RegisterLink.Bytes.Word
import RegisterLink.Command
import RegisterLink.Limits

/-!
# Frames

One frame is one message: a command byte, a two-byte length and as many body bytes. The length is
not stored but taken from the body, which is never longer than the length can tell; so a frame
cannot claim more or fewer bytes than it carries.
-/
namespace RegisterLink

structure Frame where
  command : UInt8
  body : List UInt8
  body_fits : body.length ≤ maxBodySize
  deriving DecidableEq, Repr

/-- A body too long for any frame. -/
structure FrameTooLarge where
  size : Nat
  deriving DecidableEq, Repr

def FrameTooLarge.detail (fault : FrameTooLarge) : String :=
  s!"frame too large: {fault.size} bytes exceeds maximum {maxBodySize}"

namespace Frame

/-- The frame of a command byte and a body, if the body fits. -/
def ofBody (command : UInt8) (body : List UInt8) : Except FrameTooLarge Frame :=
  if h : body.length ≤ maxBodySize then .ok ⟨command, body, h⟩ else .error ⟨body.length⟩

/-- The frame of a command without a body. -/
def empty (command : Command) : Frame :=
  ⟨command.byte, [], Nat.zero_le _⟩

def kind (frame : Frame) : Option Command := Command.ofByte? frame.command

def length (frame : Frame) : UInt16 := UInt16.ofNat frame.body.length

/-- Whether this is the given command without a body. -/
def isEmptyOf (frame : Frame) (command : Command) : Bool :=
  frame.command == command.byte && frame.body.isEmpty

/-- Header and body in one string of bytes. -/
def encode (frame : Frame) : List UInt8 :=
  frame.command :: (Word.encode 2 frame.length.toNat ++ frame.body)

def display (frame : Frame) : String :=
  s!"<Frame cmd:{frame.command.toNat}, len:{frame.body.length}, body:" ++
    Hex.encode frame.body ++ ">"

theorem ofBody_eq_ok {command : UInt8} {body : List UInt8} (h : body.length ≤ maxBodySize) :
    ofBody command body = .ok ⟨command, body, h⟩ := dif_pos h

/-- The length field is never cut short. -/
@[simp] theorem toNat_length (frame : Frame) : frame.length.toNat = frame.body.length := by
  have h := frame.body_fits
  rw [maxBodySize] at h
  rw [length, UInt16.toNat_ofNat', Nat.mod_eq_of_lt (by omega)]

@[simp] theorem length_encode (frame : Frame) :
    frame.encode.length = headerSize + frame.body.length := by
  simp [encode, headerSize]
  omega

end Frame

end RegisterLink
