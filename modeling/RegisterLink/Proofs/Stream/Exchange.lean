import RegisterLink.Proofs.Stream.Receiving
import RegisterLink.Stream

/-!
# What becomes of an exchange

An exchange sends one frame and takes one frame. Nothing is taken unless the request was sent to its
end, and nothing but the request is ever sent. A frame that is not answered is sent alone.
-/
namespace RegisterLink

/-- How an exchange can end, and what has moved in both directions by then. -/
inductive Exchanging (limit : Budget) (request : Frame) (before : Stream) :
    Outcome Frame → Stream → Prop
  | unsent {fault : TransportFault} {after : Stream}
      (sending : Sending request before.outbound (.failed (.transport fault)) after.outbound)
      (untouched : after.inbound = before.inbound) :
      Exchanging limit request before (.failed (.transport fault)) after
  | sent {outcome : Outcome Frame} {after : Stream}
      (sending : Sending request before.outbound (.done ()) after.outbound)
      (receiving : Receiving limit before.inbound outcome after.inbound) :
      Exchanging limit request before outcome after

theorem Exchanging.sent_prefix {limit : Budget} {request : Frame} {before after : Stream}
    {outcome : Outcome Frame} (h : Exchanging limit request before outcome after) :
    ∃ part, part <+: request.encode ∧ after.outbound.sent = before.outbound.sent ++ part := by
  cases h with
  | unsent sending untouched => exact sending.sent_prefix
  | sent sending receiving => exact sending.sent_prefix

theorem Exchanging.taken_prefix {limit : Budget} {request : Frame} {before after : Stream}
    {outcome : Outcome Frame} (h : Exchanging limit request before outcome after) :
    ∃ part, before.inbound.unread = part ++ after.inbound.unread := by
  cases h with
  | unsent sending untouched => exact ⟨[], by rw [untouched]; rfl⟩
  | sent sending receiving => exact receiving.taken_prefix

/-- An exchange that came to this outcome, and what it has moved. -/
structure Exchanged (limit : Budget) (request : Frame) (before : Stream) (outcome : Outcome Frame)
    (after : Stream) : Prop where
  result : Stream.exchange limit request before = (outcome, after)
  moved : Exchanging limit request before outcome after

/-- A frame that was sent alone, how that ended, and what it has moved. -/
structure Dispatched (frame : Frame) (before : Stream) (outcome : Outcome Unit) (after : Stream) :
    Prop where
  result : Stream.writeFrame frame before = (outcome, after)
  moved : Sending frame before.outbound outcome after.outbound
  untouched : after.inbound = before.inbound

/-- One whole frame has gone each way, and nothing else. -/
structure Swapped (request answer : Frame) (before after : Stream) : Prop where
  sent : after.outbound.sent = before.outbound.sent ++ request.encode
  flushed : after.outbound.flushes = before.outbound.flushes + 1
  taken : before.inbound.unread = answer.encode ++ after.inbound.unread

/-- An exchange that completes sends the request, flushes once and takes the answer. -/
theorem Exchanged.swapped {limit : Budget} {request answer : Frame} {before after : Stream}
    (h : Exchanged limit request before (.done answer) after) :
    Swapped request answer before after := by
  cases h.moved with
  | sent sending receiving =>
    cases sending with
    | sent accepted flushed =>
      cases receiving with
      | received taken => exact ⟨accepted, flushed, taken⟩

namespace Stream

/-- A stream that accepts everything, whose peer has sent the given frames and no more. -/
def holding (answers : List Frame) : Stream :=
  { inbound := { segments := [{ data := answers.flatMap Frame.encode }], ending := .closed } }

theorem writeFrame_dispatched {frame : Frame} {before after : Stream} {outcome : Outcome Unit}
    (h : Stream.writeFrame frame before = (outcome, after)) :
    Dispatched frame before outcome after := by
  have hwithin := h
  unfold Stream.writeFrame Action.within at hwithin
  rcases hsend : Outbound.writeFrame frame before.outbound with ⟨found, outbound⟩
  simp only [hsend] at hwithin
  obtain ⟨rfl, rfl⟩ := Prod.mk.inj hwithin
  exact ⟨h, Outbound.writeFrame_sending hsend, rfl⟩

theorem readFrame_cases {limit : Budget} {before after : Stream} {outcome : Outcome Frame}
    (h : Stream.readFrame limit before = (outcome, after)) :
    Receiving limit before.inbound outcome after.inbound ∧ after.outbound = before.outbound := by
  unfold Stream.readFrame Action.within at h
  rcases hread : Inbound.readFrame limit before.inbound with ⟨found, inbound⟩
  simp only [hread] at h
  obtain ⟨rfl, rfl⟩ := Prod.mk.inj h
  exact ⟨Inbound.readFrame_receiving hread, rfl⟩

theorem exchange_exchanging {limit : Budget} {request : Frame} {before after : Stream}
    {outcome : Outcome Frame} (h : Stream.exchange limit request before = (outcome, after)) :
    Exchanging limit request before outcome after := by
  unfold Stream.exchange at h
  rcases hsend : Stream.writeFrame request before with ⟨sent, middle⟩
  obtain ⟨-, hsending, hinbound⟩ := writeFrame_dispatched hsend
  cases sent with
  | done =>
    rw [Action.bind_of_done hsend] at h
    obtain ⟨hreceiving, houtbound⟩ := readFrame_cases h
    rw [hinbound] at hreceiving
    exact .sent (houtbound ▸ hsending) hreceiving
  | failed error =>
    rw [Action.bind_of_failed hsend] at h
    obtain ⟨rfl, rfl⟩ := Prod.mk.inj h
    cases hsending with
    | unflushed accepted count spent => exact .unsent (.unflushed accepted count spent) hinbound
    | cutOff cut accepted count shortage =>
      exact .unsent (.cutOff cut accepted count shortage) hinbound
  | blocked => cases hsending

theorem exchanged {limit : Budget} {request : Frame} {before after : Stream}
    {outcome : Outcome Frame} (h : Stream.exchange limit request before = (outcome, after)) :
    Exchanged limit request before outcome after :=
  ⟨h, exchange_exchanging h⟩

theorem exchange_failed {limit : Budget} {request : Frame} {before after : Stream} {error : Error}
    (h : Stream.exchange limit request before = (.failed error, after)) :
    ∃ fault, error = .transport fault := by
  cases exchange_exchanging h with
  | unsent sending untouched => exact ⟨_, rfl⟩
  | sent sending receiving => cases receiving with | broke => exact ⟨_, rfl⟩

end Stream

end RegisterLink
