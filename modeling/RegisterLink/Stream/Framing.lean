import RegisterLink.Stream.Inbound
import RegisterLink.Stream.Outbound

/-!
# Frames on a stream

A frame is sent in one go and flushed. It is received by taking the header and then exactly as many
bytes as the header tells; nothing behind the frame is touched. A time limit covers both parts
together.
-/
namespace RegisterLink

/-- The body length a header tells. -/
def declaredLength (header : List UInt8) : Nat := Word.decode (header.drop 1)

/-- How a reception that fell short ends a read with the given time limit. -/
def Shortfall.outcome {α : Type} (limit : Budget) : Shortfall → Outcome α
  | ended fault => .failed (.transport fault)
  | expired => .failed (.transport (.noResponse (limit.getD 0)))
  | stalled => .blocked

def Inbound.readFrame (limit : Budget) : Action Inbound Frame := fun inbound =>
  match inbound.receive headerSize limit with
  | (.short why, inbound) => (why.outcome limit, inbound)
  | (.complete header left, inbound) =>
    match inbound.receive (declaredLength header) left with
    | (.short why, inbound) => (why.outcome limit, inbound)
    | (.complete body _, inbound) =>
      Action.ofExcept ((Frame.ofBody (header.headD 0) body).mapError .frame) inbound

def Outbound.writeFrame (frame : Frame) : Action Outbound Unit := do
  Outbound.write frame.encode
  Outbound.flush

end RegisterLink
