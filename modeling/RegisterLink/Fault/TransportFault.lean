/-!
# Stream failures

What can go wrong while bytes move: the stream breaks, ends too early, accepts nothing more, or
stays silent beyond the time limit. Opening a stream can take too long, too. Times are in
microseconds.
-/
namespace RegisterLink

inductive FaultKind where
  | unexpectedEnd
  | timedOut
  | writeZero
  | brokenPipe
  | connectionReset
  | connectionAborted
  deriving DecidableEq, Repr

/-- A stream failure, with its cause. -/
inductive TransportFault where
  | broken (kind : FaultKind)
  | endOfStream
  | writeZero
  | noResponse (limit : Nat)
  | noConnection (address : String)
  deriving DecidableEq, Repr

namespace TransportFault

def kind : TransportFault → FaultKind
  | broken kind => kind
  | endOfStream => .unexpectedEnd
  | writeZero => .writeZero
  | noResponse _ => .timedOut
  | noConnection _ => .timedOut

/-- The cause in words. A time limit is shown in whole milliseconds, rounded down. -/
def detail : TransportFault → String
  | broken _ => "stream failed"
  | endOfStream => "early eof"
  | writeZero => "write zero"
  | noResponse limit => s!"no response within {limit / 1000}ms"
  | noConnection address => s!"connecting to {address} timed out"

end TransportFault

end RegisterLink
