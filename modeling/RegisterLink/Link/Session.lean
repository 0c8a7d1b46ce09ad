import RegisterLink.Action
import RegisterLink.Message.Query
import RegisterLink.Stream

/-!
# Sessions

A session binds one of the devices a server found for a query. `Session.ofReply` decides whether
an answer to the query binds one.
-/
namespace RegisterLink

structure Session where
  /-- Every device found, in the server's order. -/
  devices : List DeviceEntry
  /-- The device that reads and writes go to. -/
  device : DeviceEntry
  /-- Time limit for each answer. -/
  limit : Budget
  /-- Set for good by a failure after which the place of the next frame is unknown. -/
  desynchronized : Bool := false
  deriving DecidableEq, Repr

/-- What a caller may choose when binding a device. -/
structure ConnectOptions where
  deviceIndex : Nat := 0
  /-- Time limit for each answer. -/
  limit : Budget := none
  deriving DecidableEq, Repr

namespace Session

/-- Binds the chosen one of the devices found. -/
def ofDevices (options : ConnectOptions) (devices : List DeviceEntry) :
    Except HandshakeFault Session :=
  if devices = [] then
    .error .noDevice
  else
    match devices[options.deviceIndex]? with
    | some device => .ok { devices, device, limit := options.limit }
    | none => .error (.indexOutOfRange options.deviceIndex devices.length)

def ofReply (options : ConnectOptions) (reply : Frame) : Except HandshakeFault Session :=
  if reply.kind = some .queryResponse then
    match QueryResponse.decode reply.body with
    | .ok devices => ofDevices options devices
    | .error fault => .error (.malformedQueryResponse fault)
  else
    .error (.wrongQueryResponse reply)

end Session

structure SessionStatus where
  device : DeviceEntry
  desynchronized : Bool
  deriving DecidableEq, Repr

/-- The bound device and whether the session can still be used. -/
def Session.status (session : Session) : SessionStatus :=
  ⟨session.device, session.desynchronized⟩

end RegisterLink
