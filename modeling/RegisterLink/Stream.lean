import RegisterLink.Stream.Framing

/-!
# Streams

A stream carries bytes in both directions. The two directions do not influence each other.
-/
namespace RegisterLink

structure Stream where
  inbound : Inbound
  outbound : Outbound := {}
  deriving DecidableEq, Repr

namespace Stream

def readFrame (limit : Budget) : Action Stream Frame :=
  Action.within Stream.inbound (fun stream inbound => { stream with inbound })
    (Inbound.readFrame limit)

def writeFrame (frame : Frame) : Action Stream Unit :=
  Action.within Stream.outbound (fun stream outbound => { stream with outbound })
    (Outbound.writeFrame frame)

/-- Sends a request and receives the one answer to it. -/
def exchange (limit : Budget) (request : Frame) : Action Stream Frame := do
  writeFrame request
  readFrame limit

end Stream

end RegisterLink
