import RegisterLink.Link.Session
import RegisterLink.Message.Access

/-!
# Access to the bound device

Pings, reads and writes over a bound session. Requests and answers alternate: a request that
expects an answer is followed by exactly one answer. If the stream fails, or an answer is not what
it should be, the session has lost its place in the stream and is marked there and then; from then
on it refuses every request and sends nothing. An argument that is refused changes nothing.
-/
namespace RegisterLink

/-- A session on the stream it was bound on. -/
structure Link where
  stream : Stream
  session : Session
  deriving DecidableEq, Repr

namespace Link

variable {α : Type}

def onStream (act : Action Stream α) : Action Link α :=
  Action.within Link.stream (fun link stream => { link with stream }) act

/-- The link after its session has lost its place in the stream. -/
def desynchronize (link : Link) : Link :=
  { link with session := { link.session with desynchronized := true } }

/-- Fails, and marks the session if the error is one that loses its place in the stream. -/
def lose (error : Error) : Action Link α := fun link =>
  (.failed error, if error.desynchronizes then link.desynchronize else link)

/-- Marks the session if an action fails with such an error. -/
def tracked (act : Action Link α) : Action Link α := fun link =>
  match act link with
  | (.failed error, link) => lose error link
  | result => result

/-- Refuses to go on once the session has lost its place. -/
def ensureSynchronized : Action Link Unit := fun link =>
  if link.session.desynchronized then (.failed (.protocol .desynchronized), link)
  else (.done (), link)

def currentSession : Action Link Session := fun link => (.done link.session, link)

/-- Sends a frame and takes the answer to it. -/
def exchange (request : Frame) : Action Link Frame := do
  ensureSynchronized
  tracked (onStream (Stream.exchange (← currentSession).limit request))

/-- Sends a frame that is not answered. -/
def send (frame : Frame) : Action Link Unit := do
  ensureSynchronized
  tracked (onStream (Stream.writeFrame frame))

/-- Checks that the server answers. -/
def ping : Action Link Unit := do
  let reply ← exchange (Frame.empty .echoRequest)
  if reply.isEmptyOf .echoReply then return ()
  else lose (.protocol (.wrongEcho reply))

def readReply (reply : Frame) : Except ProtocolFault UInt32 :=
  if reply.kind = some .readResponse then
    (decodeReadResponse reply.body).mapError fun fault => .malformedResponse fault reply
  else
    .error (.wrongResponse reply)

/-- Reads at `offset` with an access of `size` bytes. The answer is one 32-bit word whatever the
size. -/
def read (offset : UInt32) (size : UInt16) : Action Link UInt32 := do
  let deviceId := (← currentSession).device.deviceId
  let request : ReadRequest := { deviceId, offset, size }
  let frame ← Action.ofExcept (Command.read.frame request.encode)
  let reply ← exchange frame
  match readReply reply with
  | .ok value => return value
  | .error fault => lose (.protocol fault)

def readWord (width : Width) (offset : UInt32) : Action Link UInt32 :=
  read offset (UInt16.ofNat width.bytes)

/-- Stores bytes at `offset`. Complete as soon as the request is sent. -/
def write (offset : UInt32) (data : List UInt8) : Action Link Unit := do
  let deviceId := (← currentSession).device.deviceId
  let request : WriteRequest := { deviceId, offset, data }
  let body ← Action.ofExcept (request.encode.mapError .invalidArgument)
  let frame ← Action.ofExcept (Command.write.frame body)
  send frame

/-- Stores a number, least significant byte first. -/
def writeWord (width : Width) (offset : UInt32) (value : BitVec width.bits) : Action Link Unit :=
  write offset (Word.encode width.bytes value.toNat)

/-- Stores bytes that must be exactly as many as the width says. -/
def writeBytes (width : Width) (offset : UInt32) (data : List UInt8) : Action Link Unit :=
  if data.length = width.bytes then write offset data
  else Action.fail (.invalidArgument (.wrongWidth width data.length))

/-- Tells the server that the conversation is over. -/
def bye : Action Link Unit := send (Frame.empty .bye)

end Link

end RegisterLink
