import RegisterLink.Action

/-!
# The sending side of a stream

A stream takes bytes in writes of limited size and as long as it has room. Once the room is used
up every write is refused. Flushes, too, succeed only so many times. What was accepted is kept, in
order, so that it can be compared with what should have been sent.
-/
namespace RegisterLink

/-- What a stream still accepts, and what it has accepted. -/
structure Outbound where
  /-- The most bytes one write accepts. -/
  chunk : Option Nat := none
  /-- Bytes that will still be accepted. -/
  room : Option Nat := none
  /-- How a write fails when there is no room. -/
  refusal : TransportFault := .broken .brokenPipe
  flushesLeft : Option Nat := none
  flushFault : FaultKind := .brokenPipe
  /-- All bytes accepted so far. -/
  sent : List UInt8 := []
  flushes : Nat := 0
  deriving DecidableEq, Repr

/-- At most `limit` bytes from the front. -/
def takeUpTo (limit : Option Nat) (bytes : List UInt8) : List UInt8 :=
  match limit with
  | none => bytes
  | some count => bytes.take count

def remaining (allowance : Option Nat) (used : Nat) : Option Nat :=
  allowance.map (· - used)

/-- What the next write accepts of the bytes offered. -/
def nextPiece (chunk room : Option Nat) (bytes : List UInt8) : List UInt8 :=
  takeUpTo room (takeUpTo chunk bytes)

/-- Writes piece by piece until all bytes are accepted or one write fails: the bytes accepted, and
the failure if there is one. A write that accepts nothing is a failure. -/
def pour (chunk room : Option Nat) (refusal : TransportFault) (bytes : List UInt8) :
    List UInt8 × Option TransportFault :=
  if bytes = [] then
    ([], none)
  else if room = some 0 then
    ([], some refusal)
  else if nextPiece chunk room bytes = [] then
    ([], some .writeZero)
  else
    let size := (nextPiece chunk room bytes).length
    let (accepted, fault) := pour chunk (remaining room size) refusal (bytes.drop size)
    (nextPiece chunk room bytes ++ accepted, fault)
  termination_by bytes.length
  decreasing_by
    have hpiece := List.length_pos_iff.mpr ‹nextPiece chunk room bytes ≠ []›
    have hbytes := List.length_pos_iff.mpr ‹bytes ≠ []›
    rw [List.length_drop]
    omega

namespace Outbound

def write (bytes : List UInt8) : Action Outbound Unit := fun outbound =>
  let (accepted, fault) := pour outbound.chunk outbound.room outbound.refusal bytes
  let after := { outbound with
    room := remaining outbound.room accepted.length
    sent := outbound.sent ++ accepted }
  match fault with
  | none => (.done (), after)
  | some fault => (.failed (.transport fault), after)

def flush : Action Outbound Unit := fun outbound =>
  if outbound.flushesLeft = some 0 then
    (.failed (.transport (.broken outbound.flushFault)), outbound)
  else
    (.done (), { outbound with
      flushesLeft := remaining outbound.flushesLeft 1
      flushes := outbound.flushes + 1 })

end Outbound

end RegisterLink
