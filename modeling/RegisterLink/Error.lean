import RegisterLink.Fault.InvalidArgument
import RegisterLink.Fault.TransportFault
import RegisterLink.Message.Report

/-!
# Errors

Everything that can go wrong in a session, by cause. Five kinds of error are told apart; a message
names the kind and then the cause. A reply that broke the protocol stays attached to the error.
-/
namespace RegisterLink

inductive ProtocolFault where
  /-- Bytes that are not the body they should be. -/
  | malformed (fault : Malformed)
  /-- A reply to a ping that is no empty echo. -/
  | wrongEcho (reply : Frame)
  /-- A reply to a read of another kind. -/
  | wrongResponse (reply : Frame)
  /-- A reply to a read that carries no single word. -/
  | malformedResponse (fault : Malformed) (reply : Frame)
  /-- The session lost its place in the stream earlier. -/
  | desynchronized
  deriving DecidableEq, Repr

namespace ProtocolFault

def detail : ProtocolFault → String
  | malformed fault => fault.detail
  | wrongEcho reply => "wrong response on ping: " ++ reply.describe
  | wrongResponse reply => "wrong response type: " ++ reply.describe
  | malformedResponse fault _ => fault.detail
  | desynchronized => "session is desynchronized by an earlier failure"

/-- The reply at fault, if there is one. -/
def frame? : ProtocolFault → Option Frame
  | wrongEcho reply => some reply
  | wrongResponse reply => some reply
  | malformedResponse _ reply => some reply
  | malformed _ => none
  | desynchronized => none

end ProtocolFault

inductive HandshakeFault where
  | notResponding (reply : Frame)
  | wrongQueryResponse (reply : Frame)
  | malformedQueryResponse (fault : Malformed)
  | noDevice
  | indexOutOfRange (index found : Nat)
  deriving DecidableEq, Repr

inductive ErrorKind where
  | transport
  | frame
  | protocol
  | handshake
  | invalidArgument
  deriving DecidableEq, Repr

/-- How messages of this kind begin. -/
def ErrorKind.label : ErrorKind → String
  | transport => "transport error"
  | frame => "frame error"
  | protocol => "protocol error"
  | handshake => "handshake error"
  | invalidArgument => "invalid argument"

def HandshakeFault.detail : HandshakeFault → String
  | notResponding reply => "server not responding: " ++ reply.describe
  | wrongQueryResponse reply => "wrong query response: " ++ reply.describe
  | malformedQueryResponse fault =>
    "malformed query response: " ++ ErrorKind.protocol.label ++ ": " ++ fault.detail
  | noDevice => "no matching device"
  | indexOutOfRange index found => s!"device index {index} out of range, server found {found}"

inductive Error where
  | transport (fault : TransportFault)
  | frame (fault : FrameTooLarge)
  | protocol (fault : ProtocolFault)
  | handshake (fault : HandshakeFault)
  | invalidArgument (fault : InvalidArgument)
  deriving DecidableEq, Repr

namespace Error

def kind : Error → ErrorKind
  | transport _ => .transport
  | frame _ => .frame
  | protocol _ => .protocol
  | handshake _ => .handshake
  | invalidArgument _ => .invalidArgument

def detail : Error → String
  | transport fault => fault.detail
  | frame fault => fault.detail
  | protocol fault => fault.detail
  | handshake fault => fault.detail
  | invalidArgument fault => fault.detail

def message (error : Error) : String := error.kind.label ++ ": " ++ error.detail

/-- The reply that broke the protocol, if the error is about one. -/
def frame? : Error → Option Frame
  | protocol fault => fault.frame?
  | _ => none

def isTransport (error : Error) : Bool := error.kind = .transport

/-- Whether the protocol was broken. A frame that cannot be built counts as a breach, too. -/
def isProtocol (error : Error) : Bool := error.kind = .protocol ∨ error.kind = .frame

def isHandshake (error : Error) : Bool := error.kind = .handshake

def isInvalidArgument (error : Error) : Bool := error.kind = .invalidArgument

/-- After such an error nobody knows where in the stream the next frame begins. -/
def desynchronizes (error : Error) : Bool := error.isTransport || error.isProtocol

end Error

/-- What a decoder found, as its caller is told: bytes that are not what they should be break the
protocol. -/
def Malformed.reported {α : Type} (result : Except Malformed α) : Except Error α :=
  result.mapError fun fault => .protocol (.malformed fault)

/-- The frame of a command and a body, if the body fits. -/
def Command.frame (command : Command) (body : List UInt8) : Except Error Frame :=
  (Frame.ofBody command.byte body).mapError .frame

end RegisterLink
