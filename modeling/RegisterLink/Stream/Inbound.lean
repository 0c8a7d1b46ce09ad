import RegisterLink.Fault.TransportFault

/-!
# The receiving side of a stream

A peer's bytes arrive in segments. Each segment is due after a wait of its own, which begins when
everything before it has been taken. Behind the last segment the stream is closed, broken or
silent for ever. Times are in microseconds and pass only while a reader waits.

`receive` takes an exact number of bytes within a budget of time. Bytes it has taken are gone even
if it then falls short. What is due at the very end of the budget is still taken.
-/
namespace RegisterLink

/-- Bytes that arrive together, and the wait until they do. -/
structure Segment where
  wait : Nat := 0
  data : List UInt8
  deriving DecidableEq, Repr

/-- What a reader meets behind the last segment. -/
inductive Ending where
  | closed
  | silent
  | broken (kind : FaultKind)
  deriving DecidableEq, Repr

structure Inbound where
  segments : List Segment
  ending : Ending
  deriving DecidableEq, Repr

/-- Time a reader may still wait; without a number, for ever. -/
abbrev Budget := Option Nat

/-- What is left of a budget after a wait, if it lasts that long. -/
def Budget.spend : Budget → Nat → Option Budget
  | none, _ => some none
  | some left, wait => if wait ≤ left then some (some (left - wait)) else none

/-- Why fewer bytes came than were asked for. -/
inductive Shortfall where
  | ended (fault : TransportFault)
  | expired
  | stalled
  deriving DecidableEq, Repr

/-- What keeps a reader from getting more once no segment is left. -/
def Ending.shortfall : Ending → Budget → Shortfall
  | closed, _ => .ended .endOfStream
  | broken kind, _ => .ended (.broken kind)
  | silent, some _ => .expired
  | silent, none => .stalled

/-- What a reader gets: the bytes asked for and the time left, or the reason why not. -/
inductive Reception where
  | complete (bytes : List UInt8) (left : Budget)
  | short (why : Shortfall)
  deriving DecidableEq, Repr

namespace Reception

def prepend (bytes : List UInt8) : Reception → Reception
  | complete more left => complete (bytes ++ more) left
  | short why => short why

end Reception

namespace Segment

/-- The segment after a wait that did not last until it was due. -/
def afterWaiting (segment : Segment) (budget : Budget) : Segment :=
  { segment with wait := segment.wait - budget.getD 0 }

/-- A segment that is due, without its first bytes. -/
def remainder (segment : Segment) (count : Nat) : Segment :=
  { wait := 0, data := segment.data.drop count }

end Segment

/-- Takes `need` bytes from segments; returns also the segments that are left. -/
def receiveFrom (ending : Ending) (need : Nat) (budget : Budget) (segments : List Segment) :
    Reception × List Segment :=
  if need = 0 then
    (.complete [] budget, segments)
  else
    match segments with
    | [] => (.short (ending.shortfall budget), [])
    | segment :: rest =>
      if segment.data = [] then
        receiveFrom ending need budget rest
      else
        match budget.spend segment.wait with
        | none => (.short .expired, segment.afterWaiting budget :: rest)
        | some left =>
          if need < segment.data.length then
            (.complete (segment.data.take need) left, segment.remainder need :: rest)
          else
            let (reception, rest) := receiveFrom ending (need - segment.data.length) left rest
            (reception.prepend segment.data, rest)

namespace Inbound

/-- The bytes that have not been taken, whenever they are due. -/
def unread (inbound : Inbound) : List UInt8 :=
  inbound.segments.flatMap Segment.data

/-- Takes exactly `need` bytes within a budget of time. -/
def receive (inbound : Inbound) (need : Nat) (budget : Budget) : Reception × Inbound :=
  let (reception, segments) := receiveFrom inbound.ending need budget inbound.segments
  (reception, { inbound with segments })

end Inbound

end RegisterLink
