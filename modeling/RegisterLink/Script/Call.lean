import RegisterLink.Link.Access

/-!
# Calls on a session

The requests a caller can make of a bound session, as data, and the replies they can get.
-/
namespace RegisterLink

inductive Call where
  | ping
  | read (offset : UInt32) (size : UInt16)
  | readWord (width : Width) (offset : UInt32)
  | write (offset : UInt32) (data : List UInt8)
  | writeWord (width : Width) (offset : UInt32) (value : BitVec width.bits)
  | writeBytes (width : Width) (offset : UInt32) (data : List UInt8)
  /-- Say goodbye and give the stream back. -/
  | bye
  /-- Give the stream back without a word. -/
  | release
  deriving DecidableEq, Repr

/-- What a step that succeeds gives back. -/
inductive Reply where
  | nothing
  | alive
  | word (value : UInt32)
  | devices (entries : List DeviceEntry)
  | frame (frame : Frame)
  deriving DecidableEq, Repr

namespace Call

def perform : Call → Action Link Reply
  | ping => do Link.ping; return .alive
  | read offset size => do return .word (← Link.read offset size)
  | readWord width offset => do return .word (← Link.readWord width offset)
  | write offset data => do Link.write offset data; return .nothing
  | writeWord width offset value => do Link.writeWord width offset value; return .nothing
  | writeBytes width offset data => do Link.writeBytes width offset data; return .nothing
  | bye => do Link.bye; return .nothing
  | release => return .nothing

/-- Whether the session is over after the call, however the call ends. -/
def endsSession : Call → Bool
  | bye => true
  | release => true
  | _ => false

end Call

end RegisterLink
